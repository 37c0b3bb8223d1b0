import TextTemplate.Proofs.Reading.Atom
import TextTemplate.Proofs.Reading.Unplaced

/-!
# The rule for classes in brackets

A step inside brackets is read by a local rule as long as some of the text is left behind it: nothing
but a closing bracket may be the last character. -/

namespace TextTemplate.Bracket

open Rule

variable {extended : Bool} {margin : Nat} {cursor after : Cursor} {flags : Flags}

/-! ## Classes by name -/

theorem isLower_of_named? {name : String} {set : CharSet} (known : CharSet.named? name = some set) :
    ∀ char ∈ name.toList, char.isLower = true := by
  unfold CharSet.named? at known
  split at known <;> first | contradiction | exact List.all_eq_true.mp (by decide)

/-- The name of a class with what stands around it. -/
def namedText (negated : Bool) (name : String) : List Char :=
  ['[', ':'] ++ (if negated then ['^'] else []) ++ name.toList ++ [':', ']']

theorem namedText_true (name : String) :
    namedText true name = ['[', ':'] ++ (['^'] ++ (name.toList ++ [':', ']'])) := by
  simp [namedText]

theorem namedText_false (name : String) :
    namedText false name = ['[', ':'] ++ (name.toList ++ [':', ']']) := by
  simp [namedText]

def namedClass (set : CharSet) (negated : Bool) : Rule :=
  oneOf fun name => provided (CharSet.named? name = some set) (signs (namedText negated name))

theorem isTaking_namedClass (set : CharSet) (negated : Bool) :
    (namedClass set negated).IsTaking margin :=
  isTaking_oneOf fun _ => isTaking_provided fun _ => isTaking_signs (by simp [namedText])

/-- The name of a class and what stands behind it, from the name on. -/
private def readName? (negated : Bool) (begin : Cursor) : Option (CharSet × Bool × Cursor) :=
  let (name, behind) := begin.takeWhile false (· ≠ ':')
  if [':', ']'].isPrefixOf behind.rest then
    (CharSet.named? (String.ofList name)).map fun set => (set, negated, behind.drop 2)
  else none

private theorem readName?_eq_some_iff {set : CharSet} {negated said : Bool} {begin : Cursor} :
    readName? said begin = some (set, negated, after) ↔
      negated = said ∧ ∃ name, CharSet.named? name = some set ∧
        signs (name.toList ++ [':', ']']) begin after := by
  constructor
  · intro found
    unfold readName? at found
    dsimp only at found
    split at found
    · next close =>
      obtain ⟨rest, behind⟩ := List.isPrefixOf_iff_prefix.mp close
      obtain ⟨_, known, same⟩ := Option.map_eq_some_iff.mp found
      simp only [Prod.mk.injEq] at same
      obtain ⟨rfl, rfl, rfl⟩ := same
      refine ⟨rfl, _, known, ?_⟩
      rw [String.toList_ofList]
      exact signs_append_iff.mpr ⟨_, signs_takeWhile .., signs_drop behind.symm⟩
    · contradiction
  · rintro ⟨rfl, name, known, read⟩
    obtain ⟨offset, whole⟩ := begin
    obtain ⟨middle, first, last⟩ := signs_append_iff.mp read
    have kept : ∀ char ∈ name.toList, decide (char ≠ ':') = true := by
      intro char member
      have lower := isLower_of_named? known char member
      refine decide_eq_true ?_
      rintro rfl
      contradiction
    have split : whole = name.toList ++ ':' :: ']' :: after.rest := by
      rw [show whole = _ from read.1, List.append_assoc]
      rfl
    subst split
    unfold readName?
    rw [Cursor.takeWhile_append kept (by decide)]
    have place : after = ⟨offset + name.toList.length + 2, after.rest⟩ := by
      cases after
      simpa [Nat.add_assoc] using read.2
    simp only [List.isPrefixOf, beq_self_eq_true, Bool.and_true, if_true, String.ofList_toList, known,
      Option.map_some]
    rw [place]
    rfl

private theorem readNamed?_eq (cursor : Cursor) :
    readNamed? cursor =
      if ['[', ':'].isPrefixOf cursor.rest then
        if (cursor.drop 2).peek? = some '^' then readName? true (cursor.drop 2).next
        else readName? false (cursor.drop 2)
      else none := by
  unfold readNamed?
  dsimp only
  split
  · by_cases caret : (cursor.drop 2).peek? = some '^'
    · simp only [caret, beq_self_eq_true, if_true]
      rfl
    · have other : ((cursor.drop 2).peek? == some '^') = false := by simpa using caret
      simp only [other, caret, Bool.false_eq_true, if_false]
      rfl
  · rfl

theorem readNamed?_eq_some_iff {set : CharSet} {negated : Bool} :
    readNamed? cursor = some (set, negated, after) ↔ namedClass set negated cursor after := by
  rw [readNamed?_eq]
  constructor
  · intro found
    split at found
    · next start =>
      obtain ⟨rest, split⟩ := List.isPrefixOf_iff_prefix.mp start
      have first : signs ['[', ':'] cursor (cursor.drop 2) := signs_drop split.symm
      split at found
      · next caret =>
        obtain ⟨rfl, name, known, rule⟩ := readName?_eq_some_iff.mp found
        obtain ⟨_, inside⟩ := List.head?_eq_some_iff.mp caret
        have second : signs ['^'] (cursor.drop 2) (cursor.drop 2).next := signs_drop inside
        exact ⟨name, known, namedText_true name ▸ signs_append_iff.mpr
          ⟨_, first, signs_append_iff.mpr ⟨_, second, rule⟩⟩⟩
      · obtain ⟨rfl, name, known, rule⟩ := readName?_eq_some_iff.mp found
        exact ⟨name, known, namedText_false name ▸ signs_append_iff.mpr ⟨_, first, rule⟩⟩
    · contradiction
  · rintro ⟨name, known, rule⟩
    have start : ['[', ':'].isPrefixOf cursor.rest = true := by
      rw [List.isPrefixOf_iff_prefix, rule.1, namedText]
      simp
    rw [if_pos start]
    cases negated with
    | true =>
      rw [namedText_true, signs_append_iff] at rule
      obtain ⟨_, first, rule⟩ := rule
      obtain rfl := eq_drop_of_signs first
      obtain ⟨_, second, rule⟩ := signs_append_iff.mp rule
      obtain rfl := eq_drop_of_signs second
      have caret : (cursor.drop 2).peek? = some '^' := congrArg List.head? second.1
      rw [if_pos caret]
      exact readName?_eq_some_iff.mpr ⟨rfl, name, known, rule⟩
    | false =>
      rw [namedText_false, signs_append_iff] at rule
      obtain ⟨_, first, rule⟩ := rule
      obtain rfl := eq_drop_of_signs first
      have noCaret : (cursor.drop 2).peek? ≠ some '^' := by
        rw [Cursor.peek?, show (cursor.drop 2).rest = _ from rule.1]
        intro caret
        cases chars : name.toList with
        | nil => simp [chars] at caret
        | cons char more =>
          obtain rfl : char = '^' := by simpa [chars] using caret
          exact absurd (isLower_of_named? known '^' (by simp [chars])) (by decide)
      rw [if_neg noCaret]
      exact readName?_eq_some_iff.mpr ⟨rfl, name, known, rule⟩

/-- Whether a class has a name does not depend on a closing text behind it. -/
theorem agrees_readNamed? : Agrees fun cursor => readNamed? cursor = none := by
  have named (cursor : Cursor) : readNamed? cursor = none ↔
      ∀ name set negated, CharSet.named? name = some set → ¬ namedText negated name <+: cursor.rest := by
    constructor
    · rintro nothing name set negated known ⟨rest, split⟩
      have found := readNamed?_eq_some_iff.mpr ⟨name, known, signs_drop split.symm⟩
      exact nomatch nothing.symm.trans found
    · intro nothing
      refine Option.eq_none_iff_forall_ne_some.mpr fun (set, negated, after) found => ?_
      obtain ⟨name, known, rule⟩ := readNamed?_eq_some_iff.mp found
      exact nothing name set negated known ⟨after.rest, rule.1.symm⟩
  intro behind inner outer closing some extend
  simp only [named]
  refine forall₃_congr fun name set negated => forall_congr' fun known => not_congr ?_
  refine agrees_prefix ?_ behind inner outer closing some extend
  intro member
  have parenthesis : ')' ∈ name.toList := by cases negated <;> simpa [namedText] using member
  exact absurd (isLower_of_named? known ')' parenthesis) (by decide)

/-! ## Openings -/

def caret (extended negated : Bool) : Rule :=
  if negated then Relation.Comp (sign '^') (blank extended) else stays (· ≠ some '^')

theorem isLocal_caret (negated : Bool) : (caret extended negated).IsLocal margin := by
  unfold caret
  split
  · exact ((isTaking_sign '^').andThen (isLocal_blank _)).toIsLocal
  · exact isLocal_stays (by simp)

/-- A character without a place, as a member. -/
def literal (char : Char) : Member := ⟨.single char, default, []⟩

/-- What stands for itself at the start of a class: a closing bracket or hyphens, the last one
first. -/
def literals (extended : Bool) (members : List Member) : Rule :=
  either
    (provided (members = [literal ']']) (Relation.Comp (sign ']') (blank extended)))
    (oneOf fun count => provided (members = List.replicate count (literal '-')) <|
      Relation.Comp (Atom.spaced extended (List.replicate count '-')) <|
        stays fun found => found ≠ some '-' ∧ (count = 0 → found ≠ some ']'))

theorem isLocal_literals (members : List Member) : (literals extended members).IsLocal margin :=
  (isLocal_provided fun _ => ((isTaking_sign _).andThen (isLocal_blank _)).toIsLocal).either <|
    isLocal_oneOf fun _ => isLocal_provided fun _ =>
      (Atom.isLocal_spaced _).andThen (isLocal_stays (by simp))

/-- The brackets that an opening bracket starts, without places. -/
def opened (negated : Bool) (members : List Member) : Bracket :=
  ⟨0, default, negated, 0, members, none⟩

/-- An opening bracket and what belongs to it. Something has to come behind it. -/
def opens (extended negated : Bool) (members : List Member) : Rule :=
  Relation.Comp (oneOf sign) <| Relation.Comp (blank extended) <|
    Relation.Comp (caret extended negated) <|
      Relation.Comp (literals extended members) (goesOn fun _ => True)

theorem isTaking_opens (negated : Bool) (members : List Member) :
    (opens extended negated members).IsTaking (margin + 1) :=
  (isTaking_oneOf isTaking_sign).andThen <| (isLocal_blank _).andThen <|
    (isLocal_caret _).andThen <| (isLocal_literals _).andThen <|
      isLocal_goesOn fun _ _ _ _ _ _ => Iff.rfl

/-- As many hyphens as there are, which stand for themselves in front of other members. -/
private def hyphens (extended : Bool) (members result : List Member) : Rule := fun cursor after =>
  ∃ count, result = List.replicate count (literal '-') ++ members ∧
    Atom.spaced extended (List.replicate count '-') cursor after ∧ after.peek? ≠ some '-' ∧
      (0 < count → after.rest ≠ [])

private theorem hyphens_iff_of_ne (other : cursor.peek? ≠ some '-') {members result : List Member} :
    hyphens extended members result cursor after ↔ result = members ∧ after = cursor := by
  constructor
  · rintro ⟨count, rfl, rule, _, _⟩
    cases count with
    | zero => exact ⟨rfl, rule.2⟩
    | succ =>
      obtain ⟨_, ⟨hyphen, _⟩, _⟩ := rule
      contradiction
  · rintro ⟨rfl, rfl⟩
    exact ⟨0, rfl, ⟨trivial, rfl⟩, other, nofun⟩

private theorem hyphens_iff_of_eq (hyphen : cursor.peek? = some '-') {members result : List Member} :
    hyphens extended members result cursor after ↔
      (cursor.advance extended).rest ≠ [] ∧
        hyphens extended (literal '-' :: members) result (cursor.advance extended) after := by
  constructor
  · rintro ⟨count, rfl, rule, other, goesOn⟩
    cases count with
    | zero =>
      obtain ⟨_, rfl⟩ := rule
      contradiction
    | succ count =>
      obtain ⟨_, ⟨_, rfl⟩, _, rfl, rule⟩ := rule
      have isLocal : (Atom.spaced extended (List.replicate count '-')).IsLocal 0 :=
        Atom.isLocal_spaced _
      refine ⟨(isLocal.leadsTo rule).ne_nil (goesOn (Nat.succ_pos _)), count, ?_, rule, other,
        fun _ => goesOn (Nat.succ_pos _)⟩
      simp [List.replicate_succ']
  · rintro ⟨some, count, rfl, rule, other, goesOn⟩
    refine ⟨count + 1, by simp [List.replicate_succ'], ⟨_, ⟨hyphen, rfl⟩, _, rfl, rule⟩, other,
      fun _ => ?_⟩
    cases count with
    | zero =>
      obtain ⟨_, rfl⟩ := rule
      exact some
    | succ count => exact goesOn (Nat.succ_pos _)

private theorem readHyphens_eq_ok_iff {start limit : Nat} (enough : cursor.rest.length ≤ limit)
    {members result : List Member} :
    (∃ placed, readHyphens extended start limit members cursor = .ok (placed, after) ∧
        placed.map (·.unplaced) = result) ↔
      hyphens extended (members.map (·.unplaced)) result cursor after := by
  induction limit generalizing cursor members with
  | zero =>
    have nothing : cursor.rest = [] := List.length_eq_zero_iff.mp (Nat.le_zero.mp enough)
    rw [readHyphens, hyphens_iff_of_ne (by simp [Cursor.peek?, nothing])]
    exact exists_ok_iff
  | succ limit ih =>
    by_cases hyphen : cursor.peek? = some '-'
    · have shorter := Cursor.length_advance_lt extended (Cursor.ne_nil_of_peek? hyphen)
      rw [readHyphens, if_pos hyphen, hyphens_iff_of_eq hyphen]
      dsimp only
      split
      · next nothing => simp [List.isEmpty_iff.mp nothing]
      · next some =>
        rw [List.isEmpty_iff] at some
        rw [ih (by omega)]
        simp [some, Member.unplaced, literal, literalMember]
    · rw [readHyphens, if_neg hyphen, hyphens_iff_of_ne hyphen]
      exact exists_ok_iff

theorem caret_iff {negated : Bool} :
    caret extended negated cursor after ↔ negated = (cursor.peek? == some '^') ∧
      after = if cursor.peek? == some '^' then cursor.advance extended else cursor := by
  unfold caret
  by_cases found : cursor.peek? = some '^' <;> cases negated <;>
    simp [found, Relation.Comp, sign, blank, stays, Cursor.advance]

/-- The members at the start of a class come from hyphens, or a closing bracket stands where no
hyphens are. -/
private theorem literals_iff {begin : Cursor} {members : List Member} (notEnd : begin.rest ≠ []) :
    Relation.Comp (literals extended members) (goesOn fun _ => True) begin after ↔
      ∃ found behind, hyphens extended [] found begin behind ∧
        if found = [] ∧ behind.peek? = some ']' then
          members = [literal ']'] ∧ after = behind.advance extended ∧ after.rest ≠ []
        else members = found ∧ after = behind := by
  constructor
  · rintro ⟨_, ⟨rfl, _, ⟨bracket, rfl⟩, rfl⟩ | ⟨count, rfl, _, rule, ⟨noHyphen, noBracket⟩, rfl⟩,
      goesOn, _, rfl⟩
    · refine ⟨[], begin, (hyphens_iff_of_ne (by simp [bracket])).mpr ⟨rfl, rfl⟩, ?_⟩
      rw [if_pos ⟨rfl, bracket⟩]
      exact ⟨rfl, rfl, goesOn⟩
    · refine ⟨_, _, ⟨count, (List.append_nil _).symm, rule, noHyphen, fun _ => goesOn⟩, ?_⟩
      rw [if_neg fun ⟨nothing, bracket⟩ => noBracket (by simpa using nothing) bracket]
      exact ⟨rfl, rfl⟩
  · rintro ⟨_, behind, ⟨count, rfl, rule, noHyphen, goesOn⟩, result⟩
    rw [List.append_nil] at result
    split at result
    · next bracket =>
      obtain ⟨rfl, rfl, goesOnBehind⟩ := result
      obtain rfl : count = 0 := by simpa using bracket.1
      obtain ⟨_, rfl⟩ := rule
      exact ⟨_, .inl ⟨rfl, _, ⟨bracket.2, rfl⟩, rfl⟩, goesOnBehind, trivial, rfl⟩
    · next noBracket =>
      obtain ⟨rfl, rfl⟩ := result
      have different (none : count = 0) : after.peek? ≠ some ']' :=
        fun bracket => noBracket ⟨by simp [none], bracket⟩
      refine ⟨after, .inr ⟨count, rfl, after, rule, ⟨noHyphen, different⟩, rfl⟩, ?_, trivial, rfl⟩
      cases count with
      | zero =>
        obtain ⟨_, rfl⟩ := rule
        exact notEnd
      | succ count => exact goesOn (Nat.succ_pos _)

/-- Goes on behind the hyphens at the start of a class. -/
private def readClosing (extended : Bool) (start : Nat) (negated : Bool) (first : Nat)
    (found : List Member) (behind : Cursor) : Except Fault (Bracket × Cursor) := do
  if found.isEmpty && behind.peek? == some ']' then
    let after := behind.advance extended
    if after.rest.isEmpty then throw ⟨.bracketUnclosed, after.since start⟩
    return (⟨start, after.since start, negated, first, [literalMember ']' behind], none⟩, after)
  else return (⟨start, behind.since start, negated, first, found, none⟩, behind)

private theorem readClosing_eq_ok_iff {start first : Nat} {negated said : Bool}
    {found members : List Member} {behind : Cursor} :
    (∃ placed, readClosing extended start said first found behind = .ok (placed, after) ∧
        placed.unplaced = opened negated members) ↔
      negated = said ∧ if found.map (·.unplaced) = [] ∧ behind.peek? = some ']' then
          members = [literal ']'] ∧ after = behind.advance extended ∧ after.rest ≠ []
        else members = found.map (·.unplaced) ∧ after = behind := by
  have form (opening : Span) (other : List Member) :
      unplaced ⟨start, opening, said, first, other, none⟩ = opened negated members ↔
        negated = said ∧ members = other.map (·.unplaced) := by
    simp [unplaced, opened, eq_comm]
  unfold readClosing
  by_cases bracket : found = [] ∧ behind.peek? = some ']'
  · have closes : (found.isEmpty && behind.peek? == some ']') = true := by simp [bracket]
    have same : found.map (·.unplaced) = [] ∧ behind.peek? = some ']' := by simpa using bracket
    rw [if_pos closes, if_pos same]
    simp only [guard_eq_ok_iff, pure_eq_ok_iff, List.isEmpty_iff]
    constructor
    · rintro ⟨_, ⟨goesOn, same⟩, isOpened⟩
      cases same
      obtain ⟨rfl, rfl⟩ := (form ..).mp isOpened
      exact ⟨rfl, rfl, rfl, goesOn⟩
    · rintro ⟨rfl, rfl, rfl, goesOn⟩
      exact ⟨_, ⟨goesOn, rfl⟩, (form ..).mpr ⟨rfl, rfl⟩⟩
  · have goesOn : ¬ (found.isEmpty && behind.peek? == some ']') = true := by simpa using bracket
    have same : ¬ (found.map (·.unplaced) = [] ∧ behind.peek? = some ']') := by simpa using bracket
    rw [if_neg goesOn, if_neg same]
    constructor
    · rintro ⟨_, same, isOpened⟩
      cases same
      obtain ⟨rfl, rfl⟩ := (form ..).mp isOpened
      exact ⟨rfl, rfl, rfl⟩
    · rintro ⟨rfl, rfl, rfl⟩
      exact ⟨_, rfl, (form ..).mpr ⟨rfl, rfl⟩⟩

theorem readOpening_eq_ok_iff {negated : Bool} {members : List Member} :
    (∃ placed, readOpening extended cursor = .ok (placed, after) ∧
        placed.unplaced = opened negated members) ↔
      opens extended negated members cursor after := by
  generalize said : ((cursor.advance extended).peek? == some '^') = hasCaret
  generalize start : (if hasCaret then (cursor.advance extended).advance extended
    else cursor.advance extended) = begin
  have whole {placed : Bracket} : readOpening extended cursor = .ok (placed, after) ↔
      (cursor.advance extended).rest ≠ [] ∧ begin.rest ≠ [] ∧ ∃ found behind,
        readHyphens extended cursor.offset begin.rest.length [] begin = .ok (found, behind) ∧
          readClosing extended cursor.offset hasCaret begin.offset found behind =
            .ok (placed, after) := by
    simp only [readOpening, readClosing, guard_eq_ok_iff, List.isEmpty_iff, bind_eq_ok_iff,
      Prod.exists, said, start, ne_eq]
  have leads : cursor.next.LeadsTo begin := by
    rw [← start]
    split
    · exact (Cursor.leadsTo_advance ..).trans
        ((Cursor.leadsTo_next _).trans (Cursor.leadsTo_advance ..))
    · exact Cursor.leadsTo_advance ..
  constructor
  · rintro ⟨placed, read, isOpened⟩
    obtain ⟨_, notEnd, found, behind, readHyphens, read⟩ := whole.mp read
    obtain ⟨char, text, split⟩ := List.exists_cons_of_ne_nil
      ((cursor.leadsTo_next.trans leads).ne_nil notEnd)
    obtain ⟨rfl, result⟩ := readClosing_eq_ok_iff.mp ⟨placed, read, isOpened⟩
    subst said
    exact ⟨_, ⟨char, by rw [Cursor.peek?, split]; rfl, rfl⟩, _, rfl, begin,
      caret_iff.mpr ⟨rfl, start.symm⟩, (literals_iff notEnd).mpr
        ⟨_, behind, (readHyphens_eq_ok_iff (Nat.le_refl _)).mp ⟨_, readHyphens, rfl⟩, result⟩⟩
  · rintro ⟨_, ⟨_, _, rfl⟩, _, rfl, place, isCaret, rule⟩
    obtain ⟨rfl, same⟩ := caret_iff.mp isCaret
    obtain rfl : place = begin := by rw [same, ← start, ← said]; rfl
    have notEnd : place.rest ≠ [] := by
      obtain ⟨_, isLiterals, goesOn, _⟩ := rule
      have isLocal : (literals extended members).IsLocal 0 := isLocal_literals members
      exact (isLocal.leadsTo isLiterals).ne_nil goesOn
    have notEndInside : (cursor.advance extended).rest ≠ [] := by
      have isLocal {negated : Bool} : (caret extended negated).IsLocal 0 := isLocal_caret _
      exact (isLocal.leadsTo isCaret).ne_nil notEnd
    obtain ⟨_, behind, isHyphens, result⟩ := (literals_iff notEnd).mp rule
    obtain ⟨found, read, rfl⟩ : ∃ found,
        readHyphens extended cursor.offset place.rest.length [] place = .ok (found, behind) ∧
          found.map (·.unplaced) = _ :=
      (readHyphens_eq_ok_iff (Nat.le_refl _)).mpr isHyphens
    obtain ⟨placed, readClosing, isOpened⟩ := readClosing_eq_ok_iff.mpr ⟨rfl, result⟩
    subst said
    exact ⟨placed, whole.mpr ⟨notEndInside, notEnd, found, behind, read, readClosing⟩, isOpened⟩

end TextTemplate.Bracket
