import TextTemplate.Expr.SearchLemmas
import TextTemplate.Proofs.Pattern.Compilation
import TextTemplate.Proofs.Validator.Wrapping

/-!
# What validators accept

The validator of a placeholder accepts the values that its fragment, as an expression by itself,
covers from the first to the last character. -/

namespace TextTemplate

theorem Expr.compile_eq_ok_iff {text : List Char} {expr : Expr} :
    Expr.compile text = .ok expr ↔ Expr.read text = .ok expr ∧ expr.isTooHeavy = false := by
  unfold Expr.compile
  cases Expr.read text with
  | error fault => simp
  | ok other =>
    cases heavy : other.isTooHeavy with
    | true =>
      simp only [heavy, if_true, reduceCtorEq, Except.ok.injEq, false_iff, not_and]
      rintro rfl
      simp [heavy]
    | false =>
      simp only [heavy, Bool.false_eq_true, if_false, Except.ok.injEq, iff_self_and]
      rintro rfl
      exact heavy

/-- A fragment that is an expression by itself, and whose validator is one, is one in it. -/
theorem validator_eq {fragment : List Char} {expr validator : Expr}
    (own : Expr.compile fragment = .ok expr)
    (anchored : Expr.compile (validatorSource fragment) = .ok validator) :
    validator = validatorExpr expr := by
  have read := (Expr.compile_eq_ok_iff.mp anchored).1
  obtain ⟨form, after, reaches, done, whole, rfl⟩ :=
    Expr.spells_of_read (Expr.compile_eq_ok_iff.mp own).1
  rcases reaches.stopsBefore_or_runsOver done with stops | runs
  · rcases (stops.spells whole).read with same | ⟨_, deep⟩
    · exact Except.ok.inj (read.symm.trans same)
    · exact nomatch read.symm.trans deep
  · exact absurd (Expr.spells_of_read read) (runs.not_spells validator)

/-- Between the anchors an expression has to cover the whole text. -/
theorem isMatch_validatorExpr (expr : Expr) (text : Array Char) :
    (validatorExpr expr).isMatch text = true ↔ expr.Covers text 0 text.size := by
  rw [Expr.isMatch_iff]
  constructor
  · rintro ⟨start, stop, _, _, ⟨_, ⟨rfl, atStart⟩, covers⟩, rfl, atEnd⟩
    obtain rfl := beq_iff_eq.mp atStart
    obtain rfl := beq_iff_eq.mp atEnd
    exact covers
  · intro covers
    exact ⟨0, text.size, Nat.le_refl _, text.size, ⟨0, ⟨rfl, by simp [Assertion.holds]⟩, covers⟩,
      rfl, by simp [Assertion.holds]⟩

/-- A validator accepts exactly the texts that its fragment covers as a whole, when the fragment is
taken as an expression by itself. -/
theorem isMatch_validator_iff {fragment : String} {expr validator : Expr}
    (own : Expr.compile fragment.toList = .ok expr)
    (anchored : Expr.compile (validatorSource fragment.toList) = .ok validator) (value : String) :
    validator.isMatch value.toList.toArray = true ↔
      expr.Covers value.toList.toArray 0 value.length := by
  rw [validator_eq own anchored, isMatch_validatorExpr, List.size_toArray, String.length_toList]

/-- An alternative that covers only a part of a value does not keep another one from covering it. -/
theorem isMatch_validator_alternatives : ∃ expr validator : Expr,
    Expr.compile "a|ab".toList = .ok expr ∧
      Expr.compile (validatorSource "a|ab".toList) = .ok validator ∧
      validator.isMatch "ab".toList.toArray = true := by
  have own : Expr.compile "a|ab".toList =
      .ok (.alt (.set (.single 'a')) (.seq (.set (.single 'a')) (.set (.single 'b')))) :=
    Expr.compile_eq_ok_iff.mpr ⟨rfl, by decide +kernel⟩
  have anchored : Expr.compile (validatorSource "a|ab".toList) = .ok (validatorExpr
      (.alt (.set (.single 'a')) (.seq (.set (.single 'a')) (.set (.single 'b'))))) :=
    Expr.compile_eq_ok_iff.mpr ⟨rfl, by decide +kernel⟩
  refine ⟨_, _, own, anchored, (isMatch_validator_iff own anchored "ab").mpr (.inr ⟨1, ?_, ?_⟩)⟩
  · exact ⟨rfl, 'a', rfl, by decide⟩
  · exact ⟨rfl, 'b', rfl, by decide⟩

/-! ## Patterns -/

namespace Pattern

/-- A compiled pattern lets a captured value through if the fragment for its placeholder covers it as
a whole. -/
theorem accepts_iff {pattern : Pattern} {compiled : Compiled}
    (compiles : pattern.compile = .ok compiled) {name fragment : String}
    (placed : name ∈ pattern.placeholders) (given : pattern.validators.find? name = some fragment)
    {expr : Expr} (own : Expr.compile fragment.toList = .ok expr) (value : String) :
    compiled.accepts name value = true ↔ expr.Covers value.toList.toArray 0 value.length := by
  obtain ⟨_, _, checks, found, rfl⟩ := Compiled.ofTemplate_eq_ok_iff.mp compiles
  rw [placeholders] at placed
  have looked := lookup_compileValidators found name
  rw [if_pos placed, given, Option.map_some, Option.map_eq_some_iff] at looked
  obtain ⟨validator, listed, anchored⟩ := looked
  rw [Compiled.accepts, listed]
  dsimp only
  rw [validator_eq own anchored.symm, isMatch_validatorExpr, List.size_toArray, String.length_toList]

end Pattern

end TextTemplate
