import TextTemplate.Expr.Atom
import TextTemplate.Proofs.Reading.Result
import TextTemplate.Proofs.Reading.Rule

/-!
# The rule for atoms

What an atom says is read by a local rule. The border of a word in front of an opening brace is the
exception: there the reading looks at what follows the brace. -/

namespace TextTemplate.Atom

open Rule

variable {extended : Bool} {margin : Nat} {cursor after : Cursor} {sign : Sign}

/-! ## Hexadecimal numbers -/

/-- Some characters, with what is to be skipped behind each of them. -/
def spaced (extended : Bool) : List Char → Rule
  | [] => stays fun _ => True
  | char :: text =>
    Relation.Comp (Rule.sign char) (Relation.Comp (blank extended) (spaced extended text))

theorem isLocal_spaced (text : List Char) : (spaced extended text).IsLocal margin := by
  induction text with
  | nil => exact isLocal_stays Iff.rfl
  | cons char text ih => exact ((isTaking_sign char).andThen ((isLocal_blank _).andThen ih)).toIsLocal

theorem readDigits_eq_ok_iff {count : Nat} {digits : List Char} :
    readDigits extended count cursor = .ok (digits, after) ↔
      digits.length = count ∧ (∀ digit ∈ digits, isHexDigit digit = true) ∧
        spaced extended digits cursor after := by
  induction count generalizing cursor digits with
  | zero =>
    rw [readDigits, Except.ok.injEq, Prod.mk.injEq, List.length_eq_zero_iff]
    constructor
    · rintro ⟨rfl, rfl⟩
      exact ⟨rfl, by simp, trivial, rfl⟩
    · rintro ⟨rfl, _, _, rfl⟩
      exact ⟨rfl, rfl⟩
  | succ count ih =>
    unfold readDigits
    constructor
    · intro read
      split at read
      · contradiction
      · next digit found =>
        split at read
        · next hex =>
          simp only [bind_eq_ok_iff, pure_eq_ok_iff, Prod.mk.injEq, Prod.exists] at read
          obtain ⟨more, place, found', rfl, rfl⟩ := read
          obtain ⟨length, areHex, rule⟩ := ih.mp found'
          exact ⟨by simp [length], by simpa [hex] using areHex, _, ⟨found, rfl⟩, _, rfl, rule⟩
        · contradiction
    · rintro ⟨length, areHex, rule⟩
      cases digits with
      | nil => contradiction
      | cons digit more =>
        obtain ⟨_, ⟨found, rfl⟩, _, rfl, rule⟩ := rule
        rw [List.forall_mem_cons] at areHex
        have rest := ih.mpr ⟨Nat.succ.inj length, areHex.2, rule⟩
        rw [← Cursor.advance] at rest
        simp [found, areHex.1, rest]

def digitCount (letter : Char) : Nat := if letter = 'x' then 2 else if letter = 'u' then 4 else 8

theorem digitCount_pos (letter : Char) : 0 < digitCount letter := by
  unfold digitCount
  split
  · decide
  · split <;> decide

def hexNumber (extended : Bool) (letter : Char) (sign : Sign) : Rule :=
  oneOf fun digits => either
    (provided (digits ≠ [] ∧ (ofHex? digits).map (Sign.char · false) = some sign) <|
      Relation.Comp (Rule.sign '\x7b') <| Relation.Comp (blank extended) <|
        Relation.Comp (taking extended isHexDigit digits (Rule.sign '\x7d')) (blank extended))
    (provided (digits.length = digitCount letter ∧ (∀ digit ∈ digits, isHexDigit digit = true) ∧
        (ofHex? digits).map (Sign.char · (letter == 'x')) = some sign) <|
      spaced extended digits)

theorem isLocal_hexNumber (letter : Char) (sign : Sign) :
    (hexNumber extended letter sign).IsLocal margin :=
  isLocal_oneOf fun digits =>
    (isLocal_provided fun _ => ((isTaking_sign _).andThen <| (isLocal_blank _).andThen <|
      (((isTaking_sign _).taking ..).andThen (isLocal_blank _)).toIsLocal).toIsLocal).either
    (isLocal_provided fun _ => isLocal_spaced digits)

theorem readHex_eq_ok_iff {start : Nat} {letter : Char} :
    (∃ span, readHex extended start letter cursor = .ok (⟨sign, span⟩, after)) ↔
      hexNumber extended letter sign (cursor.advance extended) after := by
  unfold readHex
  dsimp only
  generalize cursor.advance extended = inside
  constructor
  · rintro ⟨span, read⟩
    split at read
    · contradiction
    · next brace =>
      split at read
      · contradiction
      · next close =>
        split at read
        · contradiction
        · next notEmpty =>
          split at read
          · next char found =>
            cases read
            exact ⟨_, .inl ⟨⟨mt List.isEmpty_iff.mpr notEmpty, by rw [found]; rfl⟩, _, ⟨brace, rfl⟩,
              _, rfl, _, ⟨rfl, close, rfl⟩, rfl⟩⟩
          · contradiction
      · contradiction
    · simp only [bind_eq_ok_iff, Prod.exists] at read
      obtain ⟨digits, place, read, rest⟩ := read
      obtain ⟨length, areHex, rule⟩ := readDigits_eq_ok_iff.mp read
      split at rest
      · next char found =>
        cases rest
        exact ⟨digits, .inr ⟨⟨length, areHex, by rw [found]; rfl⟩, rule⟩⟩
      · contradiction
  · rintro ⟨digits, ⟨⟨notEmpty, same⟩, _, ⟨brace, rfl⟩, _, rfl, _, ⟨rfl, close, rfl⟩, rfl⟩ |
      ⟨⟨length, areHex, same⟩, rule⟩⟩
    · obtain ⟨char, found, rfl⟩ := Option.map_eq_some_iff.mp same
      rw [← Cursor.advance] at close notEmpty found
      simp only [brace, close, List.isEmpty_iff, notEmpty, found, if_false]
      exact ⟨_, rfl⟩
    · obtain ⟨char, found, rfl⟩ := Option.map_eq_some_iff.mp same
      have read := readDigits_eq_ok_iff.mpr ⟨length, areHex, rule⟩
      cases digits with
      | nil => exact absurd length (Nat.ne_of_lt (digitCount_pos letter))
      | cons digit digits =>
        obtain ⟨_, ⟨starts, _⟩, _⟩ := rule
        have noBrace : digit ≠ '\x7b' := by
          rintro rfl
          exact absurd (areHex _ List.mem_cons_self) (by decide)
        rw [starts]
        split
        · contradiction
        · next same => exact absurd (Option.some.inj same) noBrace
        · rw [digitCount] at read
          simp [read, found]

/-! ## Properties -/

def ofBraces (negated : Bool) (text : List Char) : Sign :=
  .property (query text).1 (negated != (query text).2)

/-- A property behind the letter for it and what is skipped there. -/
def property (extended negated : Bool) (sign : Sign) : Rule :=
  either
    (oneOf fun text => provided (ofBraces negated text = sign) <|
      Relation.Comp (Rule.sign '\x7b') <| Relation.Comp (blank extended) <|
        taking extended (· ≠ '\x7d') text (oneOf Rule.sign))
    (oneOf fun letter => provided (letter ≠ '\x7b' ∧ letter ≠ '\\' ∧
        .property (.name letter.toString) negated = sign) <|
      Relation.Comp (Rule.sign letter) (blank extended))

theorem isLocal_property (negated : Bool) (sign : Sign) :
    (property extended negated sign).IsLocal margin :=
  (isLocal_oneOf fun _ => isLocal_provided fun _ => ((isTaking_sign _).andThen <|
    (isLocal_blank _).andThen <|
      ((isTaking_oneOf isTaking_sign).taking ..).toIsLocal).toIsLocal).either
  (isLocal_oneOf fun _ => isLocal_provided fun _ =>
    ((isTaking_sign _).andThen (isLocal_blank _)).toIsLocal)

theorem readProperty_eq_ok_iff {start : Nat} {negated : Bool} :
    (∃ span, readProperty extended start negated cursor = .ok (⟨sign, span⟩, after)) ↔
      property extended negated sign (cursor.advance extended) after := by
  unfold readProperty
  dsimp only
  generalize cursor.advance extended = inside
  constructor
  · rintro ⟨span, read⟩
    split at read
    · contradiction
    · next brace =>
      split at read
      · contradiction
      · next last close =>
        cases read
        exact .inl ⟨_, rfl, _, ⟨brace, rfl⟩, _, rfl, rfl, last, close, rfl⟩
    · contradiction
    · next letter noBrace noBackslash found =>
      cases read
      exact .inr ⟨letter, ⟨noBrace, noBackslash, rfl⟩, _, ⟨found, rfl⟩, rfl⟩
  · rintro (⟨_, rfl, _, ⟨brace, rfl⟩, _, rfl, rfl, last, close, rfl⟩ |
      ⟨letter, ⟨noBrace, noBackslash, rfl⟩, _, ⟨found, rfl⟩, rfl⟩)
    · rw [← Cursor.advance] at close ⊢
      simp only [brace, close]
      exact ⟨_, rfl⟩
    · rw [found]
      split
      · contradiction
      · next same => exact absurd (Option.some.inj same) noBrace
      · next same => exact absurd (Option.some.inj same) noBackslash
      · next same =>
        cases same
        exact ⟨_, rfl⟩

/-! ## Borders of words -/

/-- The border of a word, behind the letter for it: nothing follows, or a name in braces. -/
def border (extended : Bool) (sign : Sign) : Rule :=
  either (provided (sign = .border .either) (stays (· ≠ some '\x7b'))) <|
    Relation.Comp (Rule.sign '\x7b') <| Relation.Comp (blank extended) <|
      before (isBorderChar · = true) <| oneOf fun name =>
        provided ((border? (String.ofList name)).map Sign.border = some sign)
          (taking extended isBorderChar name (Rule.sign '\x7d'))

theorem isLocal_border (sign : Sign) : (border extended sign).IsLocal margin :=
  (isLocal_provided fun _ => isLocal_stays (by simp)).either <|
    ((isTaking_sign _).andThen <| (isLocal_blank _).andThen <|
      ((isTaking_oneOf fun _ => isTaking_provided fun _ =>
        (isTaking_sign _).taking ..).before _).toIsLocal).toIsLocal

/-- An opening brace with no name behind it. -/
def IsNameless (extended : Bool) (cursor : Cursor) : Prop :=
  cursor.peek? = some '\x7b' ∧
    ∃ first, (cursor.advance extended).peek? = some first ∧ isBorderChar first = false

theorem readBorder_eq_ok_iff {start : Nat} :
    (∃ span, readBorder extended start cursor = .ok (⟨sign, span⟩, after)) ↔
      border extended sign cursor after ∨
        (sign = .border .either ∧ IsNameless extended cursor ∧ after = cursor) := by
  unfold readBorder
  dsimp only
  constructor
  · rintro ⟨span, read⟩
    split at read
    · next noBrace =>
      cases read
      exact .inl (.inl ⟨rfl, noBrace, rfl⟩)
    · next brace =>
      rw [ne_eq, Decidable.not_not] at brace
      split at read
      · contradiction
      · next first found =>
        split at read
        · next nameless =>
          cases read
          exact .inr ⟨rfl, ⟨brace, first, found, by simpa using nameless⟩, rfl⟩
        · next named =>
          split at read
          · contradiction
          · next close =>
            rw [ne_eq, Decidable.not_not] at close
            split at read
            · contradiction
            · next kind known =>
              cases read
              exact .inl (.inr ⟨_, ⟨brace, rfl⟩, _, rfl, ⟨first, found, by simpa using named⟩, _,
                Option.map_eq_some_iff.mpr ⟨kind, known, rfl⟩, rfl, close, rfl⟩)
  · rintro ((⟨rfl, noBrace, rfl⟩ |
      ⟨_, ⟨brace, rfl⟩, _, rfl, ⟨first, found, named⟩, _, known, rfl, close, rfl⟩) |
      ⟨rfl, ⟨brace, first, found, nameless⟩, rfl⟩)
    · rw [if_pos noBrace]
      exact ⟨_, rfl⟩
    · obtain ⟨kind, isKnown, rfl⟩ := Option.map_eq_some_iff.mp known
      rw [← Cursor.advance] at found isKnown close ⊢
      rw [if_neg (not_not_intro brace), found]
      dsimp only
      rw [if_neg (by simp [named]), if_neg (not_not_intro close), isKnown]
      exact ⟨_, rfl⟩
    · simp only [brace, found, nameless]
      exact ⟨_, rfl⟩

/-! ## Escapes -/

/-- What the letter of an escape says, and what belongs to it. -/
def behindLetter (extended : Bool) (letter : Char) (sign : Sign) : Rule :=
  if letter = 'x' ∨ letter = 'u' ∨ letter = 'U' then
    Relation.Comp (blank extended) (hexNumber extended letter sign)
  else if letter = 'p' then Relation.Comp (blank extended) (property extended false sign)
  else if letter = 'P' then Relation.Comp (blank extended) (property extended true sign)
  else if letter = 'b' then border extended sign
  else if isEscapable letter then provided (sign = .char letter false) (stays fun _ => True)
  else provided (ofLetter? letter = some sign) (stays fun _ => True)

theorem isLocal_behindLetter (letter : Char) (sign : Sign) :
    (behindLetter extended letter sign).IsLocal margin := by
  have nothing : IsLocal margin (stays fun _ => True) := isLocal_stays Iff.rfl
  unfold behindLetter
  split
  · exact (isLocal_blank _).andThen (isLocal_hexNumber ..)
  · split
    · exact (isLocal_blank _).andThen (isLocal_property ..)
    · split
      · exact (isLocal_blank _).andThen (isLocal_property ..)
      · split
        · exact isLocal_border sign
        · split
          · exact isLocal_provided fun _ => nothing
          · exact isLocal_provided fun _ => nothing

/-- A backslash, a letter that is no digit, and what belongs to it. -/
def escape (extended : Bool) (sign : Sign) : Rule :=
  Relation.Comp (Rule.sign '\\') <| oneOf fun letter => provided (letter.isDigit = false) <|
    Relation.Comp (Rule.sign letter) (behindLetter extended letter sign)

theorem isTaking_escape (sign : Sign) : (escape extended sign).IsTaking margin :=
  (isTaking_sign _).andThen <| isLocal_oneOf fun _ => isLocal_provided fun _ =>
    ((isTaking_sign _).andThen (isLocal_behindLetter ..)).toIsLocal

/-- The border of a word in front of an opening brace with no name behind it. -/
def beforeBrace (extended : Bool) (sign : Sign) : Rule :=
  provided (sign = .border .either) <| Relation.Comp (Rule.sign '\\') <|
    Relation.Comp (Rule.sign 'b') fun cursor after => IsNameless extended cursor ∧ after = cursor

private theorem readEscape_of_letter {letter : Char} (found : cursor.next.peek? = some letter) :
    (∃ span, readEscape extended cursor = .ok (⟨sign, span⟩, after)) ↔
      letter.isDigit = false ∧ (behindLetter extended letter sign cursor.next.next after ∨
        (letter = 'b' ∧ sign = .border .either ∧ IsNameless extended cursor.next.next ∧
          after = cursor.next.next)) := by
  have alone (said : Sign) (span : Span) (place : Cursor) :
      (∃ other, (.ok (⟨said, span⟩, place) : Except Fault (Atom × Cursor)) =
        .ok (⟨sign, other⟩, after)) ↔ sign = said ∧ True ∧ after = place := by
    simp [eq_comm]
  unfold readEscape behindLetter
  dsimp only
  rw [found]
  dsimp only
  split
  · next digit => simp [digit]
  · next digit =>
    rw [Bool.not_eq_true] at digit
    simp only [digit, true_and]
    split
    · next hex =>
      have other : letter ≠ 'b' := by
        rcases hex with rfl | rfl | rfl <;> decide
      simp only [other, false_and, or_false]
      exact readHex_eq_ok_iff.trans comp_blank_iff.symm
    · split
      · next property =>
        subst property
        simp only [Char.reduceEq, false_and, or_false]
        exact readProperty_eq_ok_iff.trans comp_blank_iff.symm
      · split
        · next property =>
          subst property
          simp only [Char.reduceEq, false_and, or_false]
          exact readProperty_eq_ok_iff.trans comp_blank_iff.symm
        · split
          · next border =>
            simp only [border, true_and]
            exact readBorder_eq_ok_iff
          · next other =>
            simp only [other, false_and, or_false]
            split
            · exact alone ..
            · split
              · next said known =>
                rw [known, Option.some.injEq]
                exact (alone ..).trans (and_congr_left' eq_comm)
              · next unknown => simp [unknown, provided]

theorem readEscape_eq_ok_iff (backslash : cursor.peek? = some '\\') :
    (∃ span, readEscape extended cursor = .ok (⟨sign, span⟩, after)) ↔
      escape extended sign cursor after ∨ beforeBrace extended sign cursor after := by
  cases found : cursor.next.peek? with
  | none =>
    have fails : readEscape extended cursor =
        .error ⟨.escapeCut, cursor.next.since cursor.offset⟩ := by
      simp only [readEscape, found]
    rw [fails]
    constructor
    · rintro ⟨_, read⟩
      contradiction
    · rintro (⟨_, ⟨_, rfl⟩, _, _, _, ⟨same, _⟩, _⟩ | ⟨_, _, ⟨_, rfl⟩, _, ⟨same, _⟩, _⟩) <;>
        exact nomatch found.symm.trans same
  | some letter =>
    rw [readEscape_of_letter found]
    constructor
    · rintro ⟨noDigit, rule | ⟨rfl, rfl, nameless, rfl⟩⟩
      · exact .inl ⟨_, ⟨backslash, rfl⟩, letter, noDigit, _, ⟨found, rfl⟩, rule⟩
      · exact .inr ⟨rfl, _, ⟨backslash, rfl⟩, _, ⟨found, rfl⟩, nameless, rfl⟩
    · rintro (⟨_, ⟨_, rfl⟩, other, noDigit, _, ⟨same, rfl⟩, rule⟩ |
        ⟨rfl, _, ⟨_, rfl⟩, _, ⟨same, rfl⟩, nameless, rfl⟩)
      · cases found.symm.trans same
        exact ⟨noDigit, .inl rule⟩
      · cases found.symm.trans same
        exact ⟨by decide, .inr ⟨rfl, rfl, nameless, rfl⟩⟩

/-! ## Atoms -/

/-- An escape, or a character and what it means when no backslash comes before. -/
def atom (extended : Bool) (meaning : Char → Sign) (sign : Sign) : Rule :=
  either (escape extended sign) <| oneOf fun char =>
    provided (char ≠ '\\' ∧ meaning char = sign) (Rule.sign char)

theorem isTaking_atom (meaning : Char → Sign) (sign : Sign) :
    (atom extended meaning sign).IsTaking margin :=
  (isTaking_escape sign).either <| isTaking_oneOf fun char => isTaking_provided fun _ =>
    isTaking_sign char

private theorem atom_iff (meaning : Char → Sign) {char : Char} {span : Span}
    (found : cursor.peek? = some char) (plain : char ≠ '\\') :
    (∃ other, (.ok (⟨meaning char, span⟩, cursor.next) : Except Fault (Atom × Cursor)) =
        .ok (⟨sign, other⟩, after)) ↔
      atom extended meaning sign cursor after ∨ beforeBrace extended sign cursor after := by
  constructor
  · rintro ⟨_, same⟩
    cases same
    exact .inl (.inr ⟨char, ⟨plain, rfl⟩, found, rfl⟩)
  · rintro ((⟨_, ⟨backslash, _⟩, _⟩ | ⟨other, ⟨_, rfl⟩, same, rfl⟩) | ⟨_, _, ⟨backslash, _⟩, _⟩)
    · exact absurd (Option.some.inj (found.symm.trans backslash)) plain
    · cases found.symm.trans same
      exact ⟨_, rfl⟩
    · exact absurd (Option.some.inj (found.symm.trans backslash)) plain

private theorem atom_escape_iff {meaning : Char → Sign} (backslash : cursor.peek? = some '\\') :
    (∃ span, readEscape extended cursor = .ok (⟨sign, span⟩, after)) ↔
      atom extended meaning sign cursor after ∨ beforeBrace extended sign cursor after := by
  rw [readEscape_eq_ok_iff backslash]
  refine or_congr_left ⟨.inl, ?_⟩
  rintro (rule | ⟨char, ⟨plain, _⟩, found, _⟩)
  · exact rule
  · exact absurd (Option.some.inj (found.symm.trans backslash)) plain

private theorem not_atom {meaning : Char → Sign} (nothing : cursor.peek? = none) :
    ¬ (atom extended meaning sign cursor after ∨ beforeBrace extended sign cursor after) := by
  rintro ((⟨_, ⟨found, _⟩, _⟩ | ⟨_, _, found, _⟩) | ⟨_, _, ⟨found, _⟩, _⟩) <;>
    exact nomatch nothing.symm.trans found

theorem read_eq_ok_iff :
    (∃ span, read extended cursor = .ok (⟨sign, span⟩, after)) ↔
      atom extended ofChar sign cursor after ∨ beforeBrace extended sign cursor after := by
  unfold read
  split
  · next nothing => simpa using not_atom nothing
  · next backslash => exact atom_escape_iff backslash
  · next char plain found => exact atom_iff ofChar found plain

theorem readMember_eq_ok_iff :
    (∃ span, readMember extended cursor = .ok (⟨sign, span⟩, after)) ↔
      atom extended (Sign.char · false) sign cursor after ∨
        beforeBrace extended sign cursor after := by
  unfold readMember
  split
  · next nothing => simpa using not_atom nothing
  · next backslash => exact atom_escape_iff backslash
  · next char plain found => exact atom_iff (Sign.char · false) found plain

section BeforeBrace

variable {behind : List Char} {inner outer place : Cursor}

/-- A border in front of an opening brace, whatever follows the brace. -/
private def openBorder : Rule := Relation.Comp (Rule.sign '\\') (Rule.sign 'b')

private theorem isTaking_openBorder : openBorder.IsTaking margin :=
  (isTaking_sign _).andThen (isTaking_sign _).toIsLocal

private theorem beforeBrace_iff :
    beforeBrace extended sign cursor after ↔
      sign = .border .either ∧ openBorder cursor after ∧ IsNameless extended after := by
  constructor
  · rintro ⟨rfl, _, backslash, _, letter, nameless, rfl⟩
    exact ⟨rfl, ⟨_, backslash, letter⟩, nameless⟩
  · rintro ⟨rfl, ⟨_, backslash, letter⟩, nameless⟩
    exact ⟨rfl, _, backslash, _, letter, nameless, rfl⟩

theorem leadsTo_beforeBrace (read : beforeBrace extended sign cursor after) :
    cursor.LeadsTo after := by
  have taking : openBorder.IsTaking 0 := isTaking_openBorder
  exact taking.leadsTo (beforeBrace_iff.mp read).2.1

theorem length_lt_of_beforeBrace (read : beforeBrace extended sign cursor after) :
    after.rest.length < cursor.rest.length := by
  have taking : openBorder.IsTaking 0 := isTaking_openBorder
  exact taking.shorter (beforeBrace_iff.mp read).2.1

/-- What follows an opening brace is seen in front of any text, if there is something. -/
private theorem isNameless_iff (extend : inner.Extends behind outer)
    (brace : inner.peek? = some '\x7b')
    (inside : (inner.advance extended).IsInside behind (outer.advance extended)) :
    IsNameless extended outer ↔ IsNameless extended inner := by
  have goesOn := Cursor.ne_nil_of_peek? brace
  have extendBehind := extend.advance extended goesOn inside
  rw [IsNameless, IsNameless, extend.peek? goesOn, extendBehind.peek? (extendBehind.ne_nil inside)]

theorem ahead_beforeBrace (read : beforeBrace extended sign cursor after) :
    cursor.Ahead after (beforeBrace extended sign) := by
  obtain ⟨said, border, nameless⟩ := beforeBrace_iff.mp read
  have taking : openBorder.IsTaking 0 := isTaking_openBorder
  rcases taking.ahead border with same | ⟨none, _⟩
  · refine .inl fun behind outer closing extend => ?_
    obtain ⟨place, outerBorder, extendAfter⟩ := same behind outer closing extend
    have inside : (after.advance extended).rest ≠ [] :=
      Cursor.ne_nil_of_peek? nameless.2.choose_spec.1
    refine ⟨place, beforeBrace_iff.mpr ⟨said, outerBorder, ?_⟩, extendAfter⟩
    exact (isNameless_iff extendAfter nameless.1 (.inl inside)).mpr nameless
  · exact absurd none (Cursor.ne_nil_of_peek? nameless.1)

theorem back_beforeBrace (closing : IsClosing behind) (extend : inner.Extends behind outer)
    (read : beforeBrace extended sign outer place)
    (enough : behind.length < (place.advance extended).rest.length) :
    ∃ after, beforeBrace extended sign inner after ∧ after.Extends behind place := by
  obtain ⟨said, border, nameless⟩ := beforeBrace_iff.mp read
  have taking : openBorder.IsTaking 0 := isTaking_openBorder
  have shorter := Cursor.length_advance_lt extended (Cursor.ne_nil_of_peek? nameless.1)
  obtain ⟨after, innerBorder, extendAfter⟩ := taking.back closing extend border (by omega)
  have goesOn : after.rest ≠ [] := extendAfter.ne_nil (.inr (by omega))
  have brace : after.peek? = some '\x7b' := (extendAfter.peek? goesOn).symm.trans nameless.1
  exact ⟨after, beforeBrace_iff.mpr ⟨said, innerBorder,
    (isNameless_iff extendAfter brace (.inr enough)).mp nameless⟩, extendAfter⟩

end BeforeBrace

end TextTemplate.Atom
