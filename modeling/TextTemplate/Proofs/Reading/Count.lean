import TextTemplate.Expr.Count
import TextTemplate.Proofs.Reading.Result
import TextTemplate.Proofs.Reading.Rule

/-!
# The rule for repetitions

A repetition is read by a local rule: a star, a plus, a question mark, or numbers in braces. -/

namespace TextTemplate.Count

open Rule

variable {extended : Bool} {margin : Nat} {cursor : Cursor}

/-! ## Numbers -/

def number? (digits : List Char) : Option Nat :=
  if digits.isEmpty then none
  else if Text.decimal digits ≤ limit then some (Text.decimal digits) else none

/-- A number with white space around it, and then what another rule says. -/
def numberThen (extended : Bool) (number : Nat) (rule : Rule) : Rule :=
  oneOf fun texts : List Char × List Char × List Char =>
    provided (number? texts.2.1 = some number) <|
      taking false Unicode.isWhiteSpace texts.1 <|
        taking extended Char.isDigit texts.2.1 <|
          taking extended Unicode.isWhiteSpace texts.2.2 rule

theorem numberThen_iff {number : Nat} {rule : Rule} {after : Cursor} :
    numberThen extended number rule cursor after ↔
      (readNumber extended cursor).1 = .ok number ∧ rule (readNumber extended cursor).2 after := by
  have value : (readNumber extended cursor).1 = .ok number ↔
      number? ((cursor.takeWhile false Unicode.isWhiteSpace).2.takeWhile extended Char.isDigit).1 =
        some number := by
    unfold readNumber number?
    dsimp only
    split
    · simp
    · split <;> simp
  have place : (readNumber extended cursor).2 =
      (((cursor.takeWhile false Unicode.isWhiteSpace).2.takeWhile extended Char.isDigit).2.takeWhile
        extended Unicode.isWhiteSpace).2 := by
    unfold readNumber
    dsimp only
    split <;> rfl
  rw [value, place]
  constructor
  · rintro ⟨⟨_, _, _⟩, given, rfl, rfl, _, read⟩
    exact ⟨given, read⟩
  · rintro ⟨given, read⟩
    exact ⟨⟨_, _, _⟩, given, rfl, rfl, rfl, read⟩

theorem isTaking_numberThen {rule : Rule} (isTaking : rule.IsTaking margin) (number : Nat) :
    (numberThen extended number rule).IsTaking margin :=
  isTaking_oneOf fun _ => isTaking_provided fun _ => ((isTaking.taking ..).taking ..).taking ..

/-! ## Counts in braces -/

/-- What stands between braces, and the closing brace: one number, a number and a comma, or two
numbers with a comma between them. -/
def bounds (extended : Bool) (count : Count) : Rule :=
  let behindComma (rule : Rule) : Rule :=
    Relation.Comp (sign ',') (Relation.Comp (blank extended) rule)
  match count.most with
  | none => numberThen extended count.least (behindComma (sign '\x7d'))
  | some most =>
    either (provided (most = count.least) (numberThen extended most (sign '\x7d'))) <|
      numberThen extended count.least <| behindComma <|
        Relation.Comp (stays (· ≠ some '\x7d')) (numberThen extended most (sign '\x7d'))

theorem readBounds_eq_ok_iff {start : Nat} {inside after : Cursor} {count : Count} :
    (∃ close, readBounds extended start inside = .ok (count, close) ∧ sign '\x7d' close after) ↔
      bounds extended count inside after := by
  obtain ⟨least, most⟩ := count
  simp only [readBounds, guard_eq_ok_iff, List.isEmpty_iff]
  constructor
  · rintro ⟨close, ⟨goesOn, read⟩, brace⟩
    split at read
    · simp only [bind_eq_ok_iff, pure_eq_ok_iff, Prod.mk.injEq, mk.injEq] at read
      obtain ⟨_, found, ⟨rfl, rfl⟩, rfl⟩ := read
      exact .inl ⟨rfl, numberThen_iff.mpr ⟨found, brace⟩⟩
    · next comma =>
      simp only [ne_eq, Decidable.not_not] at comma
      simp only [guard_eq_ok_iff, bind_eq_ok_iff] at read
      obtain ⟨_, _, found, read⟩ := read
      split at read
      · simp only [pure_eq_ok_iff, Prod.mk.injEq, mk.injEq] at read
        obtain ⟨⟨rfl, rfl⟩, rfl⟩ := read
        exact numberThen_iff.mpr ⟨found, _, ⟨comma, rfl⟩, _, rfl, brace⟩
      · next noBrace =>
        simp only [bind_eq_ok_iff, pure_eq_ok_iff, Prod.mk.injEq, mk.injEq] at read
        obtain ⟨_, foundMost, ⟨rfl, rfl⟩, rfl⟩ := read
        exact .inr <| numberThen_iff.mpr ⟨found, _, ⟨comma, rfl⟩, _, rfl, _, ⟨noBrace, rfl⟩,
          numberThen_iff.mpr ⟨foundMost, brace⟩⟩
  · intro rule
    cases most with
    | none =>
      obtain ⟨found, _, ⟨comma, rfl⟩, _, rfl, brace⟩ := numberThen_iff.mp rule
      have goesOn := Cursor.ne_nil_of_peek? brace.1
      rw [← Cursor.advance] at brace goesOn
      exact ⟨_, by simp [Cursor.ne_nil_of_peek? comma, comma, goesOn, found, brace.1], brace⟩
    | some most =>
      rcases rule with ⟨same, rule⟩ | rule
      · obtain rfl : most = least := same
        obtain ⟨found, brace⟩ := numberThen_iff.mp rule
        exact ⟨_, by simp [Cursor.ne_nil_of_peek? brace.1, found, brace.1], brace⟩
      · obtain ⟨found, _, ⟨comma, rfl⟩, _, rfl, _, ⟨noBrace, rfl⟩, ruleMost⟩ :=
          numberThen_iff.mp rule
        have taking : IsTaking 0 (numberThen extended most (sign '\x7d')) :=
          isTaking_numberThen (isTaking_sign _) _
        have goesOn := taking.ne_nil ruleMost
        obtain ⟨foundMost, brace⟩ := numberThen_iff.mp ruleMost
        rw [← Cursor.advance] at noBrace goesOn foundMost brace
        refine ⟨_, ?_, brace⟩
        simp [Cursor.ne_nil_of_peek? comma, comma, goesOn, found, noBrace, foundMost]

theorem isTaking_bounds (count : Count) : (bounds extended count).IsTaking margin := by
  have brace (number : Nat) : (numberThen extended number (sign '\x7d')).IsTaking margin :=
    isTaking_numberThen (isTaking_sign _) number
  have comma {rule : Rule} (isLocal : rule.IsLocal margin) :
      IsTaking margin (Relation.Comp (sign ',') (Relation.Comp (blank extended) rule)) :=
    (isTaking_sign _).andThen ((isLocal_blank _).andThen isLocal)
  unfold bounds
  cases count.most with
  | none => exact isTaking_numberThen (comma (isTaking_sign _).toIsLocal) _
  | some most =>
    have behind : IsLocal margin (Relation.Comp (stays (· ≠ some '\x7d'))
        (numberThen extended most (sign '\x7d'))) :=
      (isLocal_stays (by simp)).andThen (brace most).toIsLocal
    exact (isTaking_provided fun _ => brace most).either (isTaking_numberThen (comma behind) _)

/-! ## Repetitions -/

def mark (marked : Bool) : Rule :=
  if marked then sign '?' else stays (· ≠ some '?')

theorem readLazy_eq_iff {marked : Bool} {after : Cursor} :
    readLazy cursor = (marked, after) ↔ mark marked cursor after := by
  unfold readLazy mark
  by_cases found : cursor.peek? = some '?' <;> cases marked <;>
    simp [found, sign, stays, eq_comm]

theorem isLocal_mark (marked : Bool) : (mark marked).IsLocal margin := by
  unfold mark
  split
  · exact (isTaking_sign '?').toIsLocal
  · exact isLocal_stays (by simp)

/-- Counts in braces and the sign for a lazy repetition. -/
def braces (extended : Bool) (count : Count) (marked : Bool) : Rule :=
  provided (¬ (count.most.any (· < count.least)) = true) <|
    Relation.Comp (oneOf sign) <| Relation.Comp (blank extended) <|
      Relation.Comp (bounds extended count) <| Relation.Comp (blank extended) (mark marked)

theorem readBraces_eq_ok_iff {count : Count} {marked : Bool} {after : Cursor} :
    readBraces extended cursor = .ok (count, marked, after) ↔
      braces extended count marked cursor after := by
  simp only [readBraces, guard_eq_ok_iff, bind_eq_ok_iff, pure_eq_ok_iff, List.isEmpty_iff]
  constructor
  · rintro ⟨goesOn, ⟨found, close⟩, bounds, brace, order, rest⟩
    simp only [Prod.mk.injEq] at rest
    obtain ⟨rfl, rfl, rfl⟩ := rest
    obtain ⟨char, text, split⟩ := List.exists_cons_of_ne_nil <|
      ((cursor.leadsTo_next).trans (cursor.leadsTo_advance extended)).ne_nil goesOn
    exact ⟨order, _, ⟨char, by rw [Cursor.peek?, split]; rfl, rfl⟩, _, rfl, _,
      readBounds_eq_ok_iff.mp ⟨close, bounds, by simpa using brace, rfl⟩, _, rfl,
      readLazy_eq_iff.mp rfl⟩
  · rintro ⟨order, _, ⟨_, _, rfl⟩, _, rfl, _, bounds, _, rfl, lazy⟩
    have taking : IsTaking 0 (Count.bounds extended count) := isTaking_bounds count
    have goesOn := taking.ne_nil bounds
    obtain ⟨close, read, brace, rfl⟩ := readBounds_eq_ok_iff.mpr bounds
    rw [← readLazy_eq_iff, ← Cursor.advance] at lazy
    rw [← Cursor.advance] at goesOn read
    exact ⟨goesOn, (count, close), read, by simpa using brace, order, by rw [lazy]⟩

theorem isTaking_braces (count : Count) (marked : Bool) :
    (braces extended count marked).IsTaking margin :=
  isTaking_provided fun _ => (isTaking_oneOf isTaking_sign).andThen <|
    (isLocal_blank _).andThen <| (isTaking_bounds count).toIsLocal.andThen <|
      (isLocal_blank _).andThen (isLocal_mark marked)

/-- The counts that are written as a single sign. -/
def single : List (Char × Count) := [('*', ⟨0, none⟩), ('+', ⟨1, none⟩), ('?', ⟨0, some 1⟩)]

/-- A star, a plus, a question mark or counts in braces, and the sign for a lazy repetition. -/
def repetition (extended : Bool) (count : Count) (marked : Bool) : Rule :=
  either
    (oneOf fun char => provided ((char, count) ∈ single) (Relation.Comp (sign char) (mark marked)))
    (before (· ∉ single.map Prod.fst) (braces extended count marked))

theorem isTaking_repetition (count : Count) (marked : Bool) :
    (repetition extended count marked).IsTaking margin :=
  (isTaking_oneOf fun char => isTaking_provided fun _ =>
    (isTaking_sign char).andThen (isLocal_mark marked)).either ((isTaking_braces ..).before _)

theorem read_eq_ok_iff {count : Count} {marked : Bool} {after : Cursor} (goesOn : cursor.rest ≠ []) :
    read extended cursor = .ok (count, marked, after) ↔
      repetition extended count marked cursor after := by
  obtain ⟨char, text, split⟩ := List.exists_cons_of_ne_nil goesOn
  have peek : cursor.peek? = some char := by rw [Cursor.peek?, split]; rfl
  by_cases alone : char ∈ single.map Prod.fst
  · obtain ⟨counts, read⟩ : ∃ counts, (∀ count, (char, count) ∈ single ↔ count = counts) ∧
        read extended cursor = .ok (counts, readLazy cursor.next) := by
      simp only [single, List.map_cons, List.map_nil, List.mem_cons, List.not_mem_nil, or_false]
        at alone
      rcases alone with rfl | rfl | rfl
      · exact ⟨⟨0, none⟩, by simp [single], by simp only [Count.read, peek]⟩
      · exact ⟨⟨1, none⟩, by simp [single], by simp only [Count.read, peek]⟩
      · exact ⟨⟨0, some 1⟩, by simp [single], by simp only [Count.read, peek]⟩
    simp only [read.2, repetition, either, oneOf, provided, before, here, peek, Except.ok.injEq,
      Prod.mk.injEq, readLazy_eq_iff, Relation.Comp, sign]
    constructor
    · rintro ⟨rfl, lazy⟩
      exact .inl ⟨char, (read.1 _).mpr rfl, _, ⟨rfl, rfl⟩, lazy⟩
    · rintro (⟨other, listed, _, ⟨same, rfl⟩, lazy⟩ | ⟨⟨other, same, absent⟩, _⟩)
      · cases same
        exact ⟨((read.1 _).mp listed).symm, lazy⟩
      · cases same
        contradiction
  · have braces : read extended cursor = readBraces extended cursor := by
      unfold read
      rw [peek]
      split <;> simp_all [single]
    rw [braces, readBraces_eq_ok_iff]
    constructor
    · exact fun read => .inr ⟨⟨char, peek, alone⟩, read⟩
    · rintro (⟨other, listed, _, ⟨found, rfl⟩, _⟩ | ⟨_, read⟩)
      · obtain rfl : char = other := Option.some.inj (peek.symm.trans found)
        exact absurd (List.mem_map_of_mem listed) alone
      · exact read

/-- Behind an opening brace there is something to be read. -/
theorem length_lt_of_repetition {count : Count} {marked : Bool} {after : Cursor}
    (brace : cursor.peek? = some '\x7b') (read : repetition extended count marked cursor after) :
    after.rest.length < (cursor.advance extended).rest.length := by
  rcases read with ⟨char, listed, _, ⟨found, _⟩, _⟩ | ⟨_, _, _, ⟨_, _, rfl⟩, _, rfl, rest⟩
  · obtain rfl : char = '\x7b' := Option.some.inj (found.symm.trans brace)
    simp [single] at listed
  · have taking : IsTaking 0 (bounds extended count) := isTaking_bounds count
    exact (taking.andThen ((isLocal_blank extended).andThen (isLocal_mark marked))).shorter rest

end TextTemplate.Count
