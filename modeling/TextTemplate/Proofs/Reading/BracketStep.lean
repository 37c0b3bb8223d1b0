import TextTemplate.Proofs.Reading.Bracket

/-!
# The rule for a step inside brackets

A step inside brackets reads a class by name, brackets, an operator or a member. -/

namespace TextTemplate

open Rule

/-! ## What an atom means inside brackets -/

/-- A value and whether there is a fault to be reported at the end, if there is a value. -/
def unplacedResult {Value : Type} (result : Except Fault (Value × Option Fault)) :
    Option (Value × Option Fault) :=
  result.toOption.map fun (value, late) => (value, Fault.unplaced late)

theorem unplacedResult_eq_some_iff {Value : Type} {result : Except Fault (Value × Option Fault)}
    {value : Value} {late : Option Fault} :
    unplacedResult result = some (value, late) ↔
      ∃ found, result = .ok (value, found) ∧ Fault.unplaced found = late := by
  unfold unplacedResult
  rcases result with fault | ⟨other, found⟩
  · simp [Except.toOption]
  · simp only [Except.toOption, Option.map_some, Option.some.injEq, Prod.mk.injEq, Except.ok.injEq]
    constructor
    · rintro ⟨rfl, rfl⟩
      exact ⟨found, ⟨rfl, rfl⟩, rfl⟩
    · rintro ⟨_, ⟨rfl, rfl⟩, rfl⟩
      exact ⟨rfl, rfl⟩

namespace Atom

/-- The set for an atom depends on what the atom says only. -/
theorem toSet_unplaced (flags : Flags) (sign : Sign) (span : Span) :
    unplacedResult (toSet flags ⟨sign, span⟩) = unplacedResult (toSet flags ⟨sign, default⟩) := by
  cases sign with
  | char char fixed =>
    simp only [toSet, memberFault?]
    split <;> rfl
  | «class» kind negated =>
    simp only [toSet, ofClass]
    split <;> rfl
  | property query negated =>
    simp only [toSet, ofProperty]
    split
    · rfl
    · split <;> rfl
  | _ => rfl

theorem toRangeEnd_unplaced (flags : Flags) (sign : Sign) (span : Span) :
    unplacedResult (toRangeEnd flags ⟨sign, span⟩) =
      unplacedResult (toRangeEnd flags ⟨sign, default⟩) := by
  cases sign with
  | char char fixed =>
    simp only [toRangeEnd, memberFault?]
    split <;> rfl
  | _ => rfl

end Atom

namespace Bracket

variable {extended : Bool} {margin : Nat} {cursor after : Cursor} {flags : Flags}

/-! ## Members -/

/-- No range starts with what has been read before the place. -/
def IsAlone (extended : Bool) (cursor : Cursor) : Prop :=
  cursor.peek? ≠ some '-' ∨ cursor.peekBehind? extended = some ']' ∨
    cursor.peekBehind? extended = some '-'

/-- A closing text does not change whether the first character that counts is some given one, unless
that is white space, a number sign or a closing parenthesis. -/
private theorem firstSignificant_append {behind : List Char} (closing : IsClosing behind)
    (text : List Char) {char : Char} (counts : Unicode.isWhiteSpace char = false)
    (noNumber : char ≠ '#') (noParenthesis : char ≠ ')') :
    Cursor.firstSignificant (text ++ behind) = some char ↔
      Cursor.firstSignificant text = some char := by
  cases behind with
  | nil => rw [List.append_nil]
  | cons parenthesis behind =>
    obtain rfl : parenthesis = ')' := closing parenthesis rfl
    have kept : Unicode.isWhiteSpace ')' = false := by decide
    -- the character could only be the first one if all others were white space
    have first (found : text.head? = some char) :
        char ∈ text.filter fun char => !Unicode.isWhiteSpace char :=
      List.mem_filter.mpr ⟨List.mem_of_head? found, by simp [counts]⟩
    unfold Cursor.firstSignificant
    rw [List.filter_append, List.filter_cons_of_pos (by simp [kept])]
    rcases chars : text.filter fun char => !Unicode.isWhiteSpace char with
      _ | ⟨head, _ | ⟨second, rest⟩⟩ <;> rw [chars] at first
    · exact iff_of_false (fun same => noParenthesis (Option.some.inj same).symm)
        fun found => List.not_mem_nil (first found)
    · by_cases number : head = '#'
      · subst number
        exact iff_of_false (fun same => noParenthesis (Option.some.inj same).symm)
          fun found => noNumber (List.mem_singleton.mp (first found))
      · simp [number]
    · by_cases number : head = '#'
      · subst number
        rfl
      · simp [number]

theorem agrees_isAlone : Agrees (IsAlone extended) := by
  intro behind inner outer closing notEnd extend
  obtain ⟨first, text, split⟩ := List.exists_cons_of_ne_nil notEnd
  have whole : outer.rest = first :: (text ++ behind) := by rw [extend.rest_eq, split]; rfl
  have same {char : Char} (sign : char = ']' ∨ char = '-') :
      outer.peekBehind? extended = some char ↔ inner.peekBehind? extended = some char := by
    unfold Cursor.peekBehind?
    rw [split, whole]
    cases extended with
    | true =>
      rcases sign with rfl | rfl <;>
        exact firstSignificant_append closing text (by decide) (by decide) (by decide)
    | false =>
      have different : char ≠ ')' := by rcases sign with rfl | rfl <;> decide
      have tail : Cursor.Extends behind ⟨0, text⟩ ⟨0, text ++ behind⟩ := rfl
      exact tail.peek?_eq_some_iff closing different
  simp only [IsAlone, extend.peek? notEnd, same (.inl rfl), same (.inr rfl)]

def memberAtom (extended : Bool) (sign : Sign) : Rule := Atom.atom extended (Sign.char · false) sign

def single (flags : Flags) (set : CharSet) (late : Option Fault) : Rule :=
  oneOf fun sign => provided (unplacedResult (Atom.toSet flags ⟨sign, default⟩) = some (set, late)) <|
    Relation.Comp (memberAtom flags.extended sign) <| Relation.Comp (blank flags.extended) <|
      goesOn (IsAlone flags.extended)

def range (flags : Flags) (set : CharSet) (late : Option Fault) : Rule :=
  oneOf fun signs : Sign × Sign => provided
    (∃ low high lateLow lateHigh,
      unplacedResult (Atom.toRangeEnd flags ⟨signs.1, default⟩) = some (low, lateLow) ∧
        unplacedResult (Atom.toRangeEnd flags ⟨signs.2, default⟩) = some (high, lateHigh) ∧
          ¬ high < low ∧ set = .range low high ∧ late = (lateLow <|> lateHigh)) <|
    Relation.Comp (memberAtom flags.extended signs.1) <| Relation.Comp (blank flags.extended) <|
      Relation.Comp (here (¬ IsAlone flags.extended ·) (sign '-')) <|
        Relation.Comp (blank flags.extended) (memberAtom flags.extended signs.2)

def member (flags : Flags) (set : CharSet) (late : Option Fault) : Rule :=
  either (single flags set late) (range flags set late)

theorem isTaking_member (set : CharSet) (late : Option Fault) :
    (member flags set late).IsTaking (margin + 1) :=
  (isTaking_oneOf fun _ => isTaking_provided fun _ => (Atom.isTaking_atom ..).andThen <|
    (isLocal_blank _).andThen (isLocal_goesOn agrees_isAlone)).either <|
  isTaking_oneOf fun _ => isTaking_provided fun _ => (Atom.isTaking_atom ..).andThen <|
    (isLocal_blank _).andThen <| ((isTaking_sign _).here agrees_isAlone.not).toIsLocal.andThen <|
      (isLocal_blank _).andThen (Atom.isTaking_atom ..).toIsLocal

private theorem memberAtom_of_read {sign : Sign} {span : Span}
    (read : Atom.readMember extended cursor = .ok (⟨sign, span⟩, after))
    (different : sign ≠ .border .either) : memberAtom extended sign cursor after := by
  rcases Atom.readMember_eq_ok_iff.mp ⟨span, read⟩ with rule | ⟨rfl, _⟩
  · exact rule
  · contradiction

section ReadMember

variable {bracket : Bracket} {outer : List Bracket} {set : CharSet} {late : Option Fault}

private theorem exists_readMember_of_single (rule : single flags set late cursor after) :
    ∃ progress, readMember flags bracket outer cursor = .ok (progress, after) ∧
      progress.unplaced =
        ⟨bracket.unplaced.add ⟨set, default, []⟩ :: outer.map (·.unplaced), none, late⟩ := by
  obtain ⟨sign, meaning, place, atom, _, rfl, goesOn, alone, rfl⟩ := rule
  obtain ⟨span, read⟩ := Atom.readMember_eq_ok_iff.mpr (.inl atom)
  rw [← Atom.toSet_unplaced flags sign span] at meaning
  obtain ⟨found, isSet, rfl⟩ := unplacedResult_eq_some_iff.mp meaning
  simp only [readMember, bind_eq_ok_iff, Prod.exists, guard_eq_ok_iff, List.isEmpty_iff]
  refine ⟨⟨bracket.add ⟨set, span, []⟩ :: outer, none, found⟩, ⟨_, place, read, goesOn, ?_⟩, rfl⟩
  unfold IsAlone at alone
  rw [if_pos alone, isSet]
  rfl

private theorem exists_readMember_of_range (rule : range flags set late cursor after) :
    ∃ progress, readMember flags bracket outer cursor = .ok (progress, after) ∧
      progress.unplaced =
        ⟨bracket.unplaced.add ⟨set, default, []⟩ :: outer.map (·.unplaced), none, late⟩ := by
  obtain ⟨⟨first, last⟩, ⟨low, high, lateLow, lateHigh, meaningLow, meaningHigh, order, rfl, rfl⟩,
    place, atom, _, rfl, _, ⟨inRange, hyphen, rfl⟩, _, rfl, atomLast⟩ := rule
  obtain ⟨span, read⟩ := Atom.readMember_eq_ok_iff.mpr (.inl atom)
  obtain ⟨lastSpan, readLast⟩ := Atom.readMember_eq_ok_iff.mpr (.inl atomLast)
  rw [← Atom.toRangeEnd_unplaced flags first span] at meaningLow
  rw [← Atom.toRangeEnd_unplaced flags last lastSpan] at meaningHigh
  obtain ⟨foundLow, isLow, rfl⟩ := unplacedResult_eq_some_iff.mp meaningLow
  obtain ⟨foundHigh, isHigh, rfl⟩ := unplacedResult_eq_some_iff.mp meaningHigh
  have taking : (memberAtom flags.extended last).IsTaking 0 := Atom.isTaking_atom ..
  have goesOnLast := taking.ne_nil atomLast
  rw [← Cursor.advance] at goesOnLast readLast
  simp only [readMember, bind_eq_ok_iff, Prod.exists, guard_eq_ok_iff, List.isEmpty_iff]
  refine ⟨⟨bracket.add ⟨.range low high, ⟨span.start, lastSpan.stop⟩, []⟩ :: outer, none,
    foundLow <|> foundHigh⟩, ⟨_, place, read, Cursor.ne_nil_of_peek? hyphen, ?_⟩, ?_⟩
  · unfold IsAlone at inRange
    rw [if_neg inRange, if_neg goesOnLast, readLast]
    simp only [bind, Except.bind, isLow, isHigh, if_neg order]
    rfl
  · simp [Progress.unplaced, unplaced_add, Member.unplaced]

theorem readMember_eq_ok_iff {form : Progress} :
    (∃ progress, readMember flags bracket outer cursor = .ok (progress, after) ∧
        progress.unplaced = form) ↔
      ∃ set late, form = ⟨bracket.unplaced.add ⟨set, default, []⟩ :: outer.map (·.unplaced), none,
          late⟩ ∧ member flags set late cursor after := by
  constructor
  · simp only [readMember, bind_eq_ok_iff, Prod.exists, guard_eq_ok_iff, List.isEmpty_iff]
    rintro ⟨progress, ⟨⟨sign, span⟩, place, readFirst, goesOn, read⟩, rfl⟩
    split at read
    · next alone =>
      simp only [bind_eq_ok_iff, Prod.exists] at read
      obtain ⟨set, late, found, rest⟩ := read
      cases rest
      have different : sign ≠ .border .either := by
        rintro rfl
        contradiction
      have meaning := unplacedResult_eq_some_iff.mpr ⟨late, found, rfl⟩
      rw [Atom.toSet_unplaced] at meaning
      exact ⟨set, _, rfl, .inl ⟨sign, meaning, place, memberAtom_of_read readFirst different, _, rfl,
        goesOn, alone, rfl⟩⟩
    · next inRange =>
      simp only [guard_eq_ok_iff, bind_eq_ok_iff, Prod.exists] at read
      obtain ⟨_, ⟨last, lastSpan⟩, placeLast, readLast, low, lateLow, isLow, high, lateHigh, isHigh,
        order, rest⟩ := read
      cases rest
      have different : sign ≠ .border .either := by
        rintro rfl
        contradiction
      have differentLast : last ≠ .border .either := by
        rintro rfl
        contradiction
      have meaningLow := unplacedResult_eq_some_iff.mpr ⟨lateLow, isLow, rfl⟩
      have meaningHigh := unplacedResult_eq_some_iff.mpr ⟨lateHigh, isHigh, rfl⟩
      rw [Atom.toRangeEnd_unplaced] at meaningLow meaningHigh
      have hyphen := Decidable.not_not.mp (not_or.mp inRange).1
      refine ⟨_, _, rfl, .inr ⟨(sign, last), ⟨low, high, _, _, meaningLow, meaningHigh, order, rfl,
        ?_⟩, place, memberAtom_of_read readFirst different, _, rfl, _, ⟨inRange, hyphen, rfl⟩, _, rfl,
        memberAtom_of_read readLast differentLast⟩⟩
      simp
  · rintro ⟨set, late, rfl, rule | rule⟩
    · exact exists_readMember_of_single rule
    · exact exists_readMember_of_range rule

end ReadMember

/-! ## Steps -/

/-- The signs of the operators, each of which is written twice. -/
def operators : List (Char × SetOp) := [('&', .inter), ('-', .diff), ('~', .symmDiff)]

/-- Neither a bracket nor an operator comes next. -/
def IsPlain (cursor : Cursor) : Prop :=
  ∀ text ∈ ['['] :: [']'] :: operators.map fun (char, _) => [char, char], ¬ text <+: cursor.rest

theorem agrees_isPlain : Agrees IsPlain := by
  intro behind inner outer closing notEnd extend
  refine forall₂_congr fun text listed => not_congr ?_
  refine agrees_prefix ?_ behind inner outer closing notEnd extend
  simp only [operators, List.map_cons, List.map_nil, List.mem_cons, List.not_mem_nil, or_false]
    at listed
  rcases listed with rfl | rfl | rfl | rfl | rfl <;> decide

/-- What the end of the innermost brackets leads to. -/
def closed (flags : Flags) (bracket : Bracket) : (outer : List Bracket) → Progress
  | [] => ⟨[], some (bracket.close flags 0).1, (bracket.close flags 0).2⟩
  | parent :: others => ⟨parent.add (bracket.close flags 0).1 :: others, none, (bracket.close flags 0).2⟩

/-- The end of the innermost brackets. -/
def closes (flags : Flags) (bracket : Bracket) (outer : List Bracket) (form : Progress) : Rule :=
  provided ((closed flags bracket outer).unplaced = form) (sign ']')

/-- What a class by name leads to. -/
def withClass (flags : Flags) (bracket : Bracket) (outer : List Bracket) (set : CharSet)
    (negated : Bool) : Progress :=
  ⟨bracket.add ⟨Atom.negate negated (flags.fold set), default, []⟩ :: outer, none,
    if !flags.unicode && negated then some ⟨.brokenText, default⟩ else none⟩

/-- A step that leaves brackets open: a class by name, brackets inside, an operator or a member. -/
def goesOnInside (flags : Flags) (bracket : Bracket) (outer : List Bracket) (form : Progress) : Rule :=
  either
    (oneOf fun named : CharSet × Bool =>
      provided ((withClass flags bracket outer named.1 named.2).unplaced = form)
        (namedClass named.1 named.2)) <|
  either
    (oneOf fun inner : Bool × List Member =>
      provided (form = ⟨opened inner.1 inner.2 :: bracket :: outer, none, none⟩) <|
        here (readNamed? · = none) <| before (· = '[') (opens flags.extended inner.1 inner.2)) <|
  either
    (oneOf fun operator : Char × SetOp =>
      provided (operator ∈ operators ∧
          form = ⟨(bracket.operate flags operator.2 0).unplaced :: outer, none, none⟩) <|
        signs [operator.1, operator.1]) <|
    oneOf fun read : CharSet × Option Fault =>
      provided (form = ⟨bracket.add ⟨read.1, default, []⟩ :: outer, none, read.2⟩) <|
        here IsPlain (member flags read.1 read.2)

theorem isTaking_closes (bracket : Bracket) (outer : List Bracket) (form : Progress) :
    (closes flags bracket outer form).IsTaking margin :=
  isTaking_provided fun _ => isTaking_sign _

theorem isTaking_goesOnInside (bracket : Bracket) (outer : List Bracket) (form : Progress) :
    (goesOnInside flags bracket outer form).IsTaking (margin + 1) :=
  (isTaking_oneOf fun _ => isTaking_provided fun _ => isTaking_namedClass ..).either <|
  (isTaking_oneOf fun _ => isTaking_provided fun _ =>
    ((isTaking_opens ..).before _).here agrees_readNamed?).either <|
  (isTaking_oneOf fun _ => isTaking_provided fun _ => isTaking_signs (by simp)).either <|
    isTaking_oneOf fun _ => isTaking_provided fun _ => (isTaking_member ..).here agrees_isPlain

/-- Brackets that have just been opened have no operator yet. -/
theorem exists_opened {placed : Bracket}
    (read : readOpening extended cursor = .ok (placed, after)) :
    ∃ negated members, placed.unplaced = opened negated members := by
  simp only [readOpening, guard_eq_ok_iff, bind_eq_ok_iff] at read
  obtain ⟨_, _, _, _, read⟩ := read
  split at read
  · rw [guard_eq_ok_iff] at read
    cases read.2
    exact ⟨_, _, rfl⟩
  · cases read
    exact ⟨_, _, rfl⟩

private theorem withClass_unplaced (bracket : Bracket) (outer : List Bracket) (set : CharSet)
    (negated : Bool) (span : Span) :
    (withClass flags bracket.unplaced (outer.map (·.unplaced)) set negated).unplaced =
      Progress.unplaced ⟨bracket.add ⟨Atom.negate negated (flags.fold set), span, []⟩ :: outer, none,
        if !flags.unicode && negated then some ⟨.brokenText, span⟩ else none⟩ := by
  simp only [withClass, Progress.unplaced, unplaced_add, List.map_cons, List.map_map,
    unplaced_unplaced, Function.comp_def]
  split <;> rfl

private theorem closed_unplaced (bracket : Bracket) (outer : List Bracket) (stop : Nat) :
    (closed flags bracket.unplaced (outer.map (·.unplaced))).unplaced =
      (match outer with
        | [] => Progress.mk [] (some (bracket.close flags stop).1) (bracket.close flags stop).2
        | parent :: others =>
          ⟨parent.add (bracket.close flags stop).1 :: others, none,
            (bracket.close flags stop).2⟩).unplaced := by
  obtain ⟨member, late⟩ := bracket.close_unplaced flags stop
  cases outer with
  | nil => simp [closed, Progress.unplaced, member, late]
  | cons parent others =>
    simp [closed, Progress.unplaced, unplaced_add, member, late, Function.comp_def]

private theorem operate_unplaced (bracket : Bracket) (outer : List Bracket) (op : SetOp)
    (first : Nat) :
    Progress.unplaced ⟨bracket.operate flags op first :: outer, none, none⟩ =
      ⟨(bracket.unplaced.operate flags op 0).unplaced :: outer.map (·.unplaced), none, none⟩ := by
  rw [← unplaced_operate flags op first]
  rfl

section Step

variable {bracket : Bracket} {outer : List Bracket} {form : Progress} {rest : List Char}

/-- A bracket or an operator comes next where it is not plain what comes next. -/
private theorem exists_split_of_not_isPlain (notPlain : ¬ IsPlain cursor) :
    (∃ rest, cursor.rest = '[' :: rest) ∨ (∃ rest, cursor.rest = ']' :: rest) ∨
      ∃ char op rest, (char, op) ∈ operators ∧ cursor.rest = char :: char :: rest := by
  simp only [IsPlain, Classical.not_forall, Classical.not_not] at notPlain
  obtain ⟨text, listed, rest, split⟩ := notPlain
  rcases List.mem_cons.mp listed with rfl | listed
  · exact .inl ⟨rest, split.symm⟩
  · rcases List.mem_cons.mp listed with rfl | listed
    · exact .inr (.inl ⟨rest, split.symm⟩)
    · obtain ⟨⟨char, op⟩, member, rfl⟩ := List.mem_map.mp listed
      exact .inr (.inr ⟨char, op, rest, member, split.symm⟩)

/-- Where neither a bracket nor an operator comes next, a member is read. -/
private theorem step_of_isPlain (plain : IsPlain cursor) :
    step flags bracket outer cursor = readMember flags bracket outer cursor := by
  unfold step
  split
  · next rest split => exact absurd ⟨rest, split.symm⟩ (plain ['['] (by simp))
  · next rest split => exact absurd ⟨rest, split.symm⟩ (plain [']'] (by simp))
  · next rest split => exact absurd ⟨rest, split.symm⟩ (plain ['&', '&'] (by simp [operators]))
  · next rest split => exact absurd ⟨rest, split.symm⟩ (plain ['-', '-'] (by simp [operators]))
  · next rest split => exact absurd ⟨rest, split.symm⟩ (plain ['~', '~'] (by simp [operators]))
  · rfl

private theorem step_operator {char : Char} {op : SetOp} (listed : (char, op) ∈ operators)
    (split : cursor.rest = char :: char :: rest) :
    step flags bracket outer cursor =
      .ok (⟨bracket.operate flags op (cursor.drop 2).offset :: outer, none, none⟩,
        cursor.drop 2) := by
  simp only [operators, List.mem_cons, Prod.mk.injEq, List.not_mem_nil, or_false] at listed
  rcases listed with ⟨rfl, rfl⟩ | ⟨rfl, rfl⟩ | ⟨rfl, rfl⟩ <;> simp only [step, split]

private theorem step_closing_iff (split : cursor.rest = ']' :: rest) :
    (∃ progress, step flags bracket outer cursor = .ok (progress, after) ∧
        progress.unplaced = form) ↔
      (closed flags bracket.unplaced (outer.map (·.unplaced))).unplaced = form ∧
        after = cursor.next := by
  rw [closed_unplaced bracket outer cursor.next.offset, eq_comm (b := form)]
  simp only [step, split]
  cases outer <;> exact exists_ok_iff

/-- An opening bracket starts a class by name, or else brackets inside. -/
private theorem step_opening_iff (split : cursor.rest = '[' :: rest) :
    (∃ progress, step flags bracket outer cursor = .ok (progress, after) ∧
        progress.unplaced = form) ↔
      (∃ set negated,
          (withClass flags bracket.unplaced (outer.map (·.unplaced)) set negated).unplaced = form ∧
            namedClass set negated cursor after) ∨
        ∃ negated members,
          form = ⟨opened negated members :: bracket.unplaced :: outer.map (·.unplaced), none, none⟩ ∧
            readNamed? cursor = none ∧ opens flags.extended negated members cursor after := by
  simp only [← readNamed?_eq_some_iff, ← readOpening_eq_ok_iff, step, split]
  cases found : readNamed? cursor with
  | some named =>
    obtain ⟨set, negated, place⟩ := named
    dsimp only
    rw [exists_ok_iff]
    constructor
    · rintro ⟨rfl, rfl⟩
      exact .inl ⟨set, negated, withClass_unplaced .., rfl⟩
    · rintro (⟨_, _, rfl, same⟩ | ⟨_, _, _, unnamed, _⟩)
      · cases same
        exact ⟨withClass_unplaced .., rfl⟩
      · contradiction
  | none =>
    simp only [bind_eq_ok_iff, pure_eq_ok_iff, Prod.exists]
    constructor
    · rintro ⟨_, ⟨inner, _, read, same⟩, rfl⟩
      cases same
      obtain ⟨negated, members, isOpened⟩ := exists_opened read
      refine .inr ⟨negated, members, ?_, trivial, inner, read, isOpened⟩
      rw [← isOpened]
      rfl
    · rintro (⟨_, _, _, same⟩ | ⟨negated, members, rfl, _, inner, read, isOpened⟩)
      · contradiction
      · refine ⟨_, ⟨inner, _, read, rfl⟩, ?_⟩
        rw [← isOpened]
        rfl

theorem step_eq_ok_iff :
    (∃ progress, step flags bracket outer cursor = .ok (progress, after) ∧
        progress.unplaced = form) ↔
      closes flags bracket.unplaced (outer.map (·.unplaced)) form cursor after ∨
        goesOnInside flags bracket.unplaced (outer.map (·.unplaced)) form cursor after := by
  constructor
  · intro read
    by_cases plain : IsPlain cursor
    · rw [step_of_isPlain plain, readMember_eq_ok_iff] at read
      obtain ⟨set, late, same, rule⟩ := read
      exact .inr (.inr (.inr (.inr ⟨(set, late), same, plain, rule⟩)))
    · rcases exists_split_of_not_isPlain plain with ⟨rest, split⟩ | ⟨rest, split⟩ |
        ⟨char, op, rest, listed, split⟩
      · have peek : cursor.peek? = some '[' := by rw [Cursor.peek?, split]; rfl
        rcases (step_opening_iff split).mp read with ⟨set, negated, same, rule⟩ |
          ⟨negated, members, same, unnamed, rule⟩
        · exact .inr (.inl ⟨(set, negated), same, rule⟩)
        · exact .inr (.inr (.inl ⟨(negated, members), same, unnamed, ⟨_, peek, rfl⟩, rule⟩))
      · have peek : cursor.peek? = some ']' := by rw [Cursor.peek?, split]; rfl
        obtain ⟨same, rfl⟩ := (step_closing_iff split).mp read
        exact .inl ⟨same, peek, rfl⟩
      · rw [step_operator listed split, exists_ok_iff] at read
        obtain ⟨rfl, rfl⟩ := read
        exact .inr (.inr (.inr (.inl ⟨(char, op), ⟨listed, operate_unplaced ..⟩,
          signs_drop split⟩)))
  · rintro (⟨same, peek, rfl⟩ | ⟨⟨set, negated⟩, same, rule⟩ |
      ⟨⟨negated, members⟩, same, unnamed, ⟨_, peek, rfl⟩, rule⟩ | ⟨⟨char, op⟩, ⟨listed, rfl⟩, rule⟩ |
      ⟨⟨set, late⟩, same, plain, rule⟩)
    · obtain ⟨rest, split⟩ := List.head?_eq_some_iff.mp peek
      exact (step_closing_iff split).mpr ⟨same, rfl⟩
    · obtain ⟨name, _, whole, _⟩ := id rule
      obtain ⟨rest, split⟩ : ∃ rest, cursor.rest = '[' :: rest :=
        ⟨_, by rw [whole, namedText, List.append_assoc, List.append_assoc]; rfl⟩
      exact (step_opening_iff split).mpr (.inl ⟨set, negated, same, rule⟩)
    · obtain ⟨rest, split⟩ := List.head?_eq_some_iff.mp peek
      exact (step_opening_iff split).mpr (.inr ⟨negated, members, same, unnamed, rule⟩)
    · obtain rfl := eq_drop_of_signs rule
      rw [step_operator listed rule.1, exists_ok_iff]
      exact ⟨(operate_unplaced ..).symm, rfl⟩
    · rw [step_of_isPlain plain, readMember_eq_ok_iff]
      exact ⟨set, late, same, rule⟩

end Step

end Bracket

end TextTemplate
