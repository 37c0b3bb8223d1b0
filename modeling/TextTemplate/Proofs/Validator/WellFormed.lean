import TextTemplate.Proofs.Bindings.Lookup
import TextTemplate.Proofs.Pattern.Errors
import TextTemplate.Proofs.Validator.Acceptance

/-!
# Which fragments have validators

The parentheses around a fragment can meet with what the fragment says. A fragment that closes the
group around it may have a validator without being an expression, and an expression that ends with a
comment has none. In all other cases the validator of a fragment is well-formed if and only if the
fragment is, by itself. -/

namespace TextTemplate

/-- The text is not refused for its weight or for the levels of parts inside its parts. -/
def IsWithinLimits (text : List Char) : Prop :=
  Expr.compile text ≠ .error .tooHeavy ∧ ¬ IsTooDeep text

theorem isWithinLimits_of_isOk {text : List Char} (accepted : (Expr.compile text).isOk = true) :
    IsWithinLimits text := by
  cases compiled : Expr.compile text with
  | error => simp [compiled, Except.isOk, Except.toBool] at accepted
  | ok expr =>
    refine ⟨by simp [compiled], ?_⟩
    rintro ⟨_, deep⟩
    have same := (Expr.compile_eq_ok_iff.mp compiled).1.symm.trans deep
    contradiction

section Fragments

variable {text fragment : List Char}

theorem isOk_compile_iff (within : IsWithinLimits text) :
    (Expr.compile text).isOk = true ↔ ∃ expr, Spells text expr := by
  obtain ⟨light, shallow⟩ := within
  constructor
  · intro accepted
    cases compiled : Expr.compile text with
    | error => simp [compiled, Except.isOk, Except.toBool] at accepted
    | ok expr => exact ⟨expr, Expr.spells_of_read (Expr.compile_eq_ok_iff.mp compiled).1⟩
  · rintro ⟨expr, spells⟩
    have read := spells.read.resolve_right shallow
    have isLight : expr.isTooHeavy = false := by
      by_contra heavy
      refine light ?_
      rw [Expr.compile, read]
      simp [heavy]
    rw [Expr.compile_eq_ok_iff.mpr ⟨read, isLight⟩]
    rfl

theorem IsUnopened.not_spells (unopened : IsUnopened text) (expr : Expr) : ¬ Spells text expr := by
  intro spells
  obtain ⟨span, fault⟩ := unopened
  rcases spells.read with read | ⟨_, deep⟩
  · exact nomatch read.symm.trans fault
  · exact nomatch deep.symm.trans fault

/-- An expression has a validator if and only if a closing parenthesis behind it closes nothing. -/
theorem exists_spells_validatorSource_iff {expr : Expr} (own : Spells fragment expr) :
    (∃ validator, Spells (validatorSource fragment) validator) ↔
      IsUnopened (fragment ++ [')']) := by
  obtain ⟨form, after, reaches, done, whole, _⟩ := own
  rcases reaches.stopsBefore_or_runsOver done with stops | runs
  · exact iff_of_true ⟨_, stops.spells whole⟩ (stops.isUnopened whole)
  · exact iff_of_false (fun ⟨_, spells⟩ => runs.not_spells _ spells) (runs.not_isUnopened whole)

/-- A fragment and its validator are both well-formed or both malformed if and only if the fragment
neither takes in a closing parenthesis behind it nor closes the group around it. -/
theorem isOk_validator_iff_isOk_iff (own : IsWithinLimits fragment)
    (anchored : IsWithinLimits (validatorSource fragment)) :
    ((Expr.compile (validatorSource fragment)).isOk = true ↔ (Expr.compile fragment).isOk = true) ↔
      ((Expr.compile fragment).isOk = true → IsUnopened (fragment ++ [')'])) ∧
        (IsUnopened fragment → ¬ (Expr.compile (validatorSource fragment)).isOk = true) := by
  rw [isOk_compile_iff own, isOk_compile_iff anchored]
  constructor
  · intro same
    refine ⟨fun accepted => ?_, fun unopened valid => ?_⟩
    · exact (exists_spells_validatorSource_iff accepted.choose_spec).mp (same.mpr accepted)
    · obtain ⟨expr, spells⟩ := same.mp valid
      exact unopened.not_spells expr spells
  · rintro ⟨keeps, noGroup⟩
    constructor
    · rintro ⟨validator, valid⟩
      exact (exists_spells_or_isUnopened valid).resolve_right fun unopened =>
        noGroup unopened ⟨validator, valid⟩
    · rintro ⟨expr, spells⟩
      exact (exists_spells_validatorSource_iff spells).mpr (keeps ⟨expr, spells⟩)

end Fragments

/-! ## Patterns -/

theorem not_failsToCompile {validators : Bindings} {name : String}
    (valid : ∀ text, validators.find? name = some text →
      (Expr.compile (validatorSource text.toList)).isOk = true) (error : CompileError) :
    ¬ FailsToCompile validators.find? name error := by
  rintro ⟨text, given, failed⟩
  have accepted := valid text given
  simp [failed, Except.isOk, Except.toBool] at accepted

/-- Validators are compiled if each of those that are needed can be compiled. -/
theorem exists_compileValidators {validators : Bindings} {names : List String}
    (valid : ∀ name ∈ names, ∀ text, validators.find? name = some text →
      (Expr.compile (validatorSource text.toList)).isOk = true) :
    ∃ compiled, compileValidators validators names = .ok compiled := by
  cases made : compileValidators validators names with
  | ok compiled => exact ⟨compiled, rfl⟩
  | error error =>
    obtain ⟨before, name, later, cause, rfl, failed, _⟩ := compileValidators_eq_error_iff.mp made
    exact absurd failed (not_failsToCompile (valid name (by simp)) cause)

/-- If the validator of one placeholder only cannot be compiled, its error is the one reported. -/
theorem compileValidators_eq_error {validators : Bindings} {names : List String}
    {name fragment : String} (placed : name ∈ names)
    (given : validators.find? name = some fragment) {error : CompileError}
    (failed : Expr.compile (validatorSource fragment.toList) = .error error)
    (others : ∀ other ∈ names, other ≠ name → ∀ text, validators.find? other = some text →
      (Expr.compile (validatorSource text.toList)).isOk = true) :
    compileValidators validators names = .error (.validator name error) := by
  obtain ⟨before, later, rfl, first⟩ := List.eq_append_cons_of_mem placed
  refine compileValidators_eq_error_iff.mpr ⟨before, name, later, error, rfl, ?_, ?_, rfl⟩
  · exact (failsToCompile_iff given error).mpr failed
  · intro other member
    have different : other ≠ name := fun same => first (same ▸ member)
    exact not_failsToCompile (others other (List.mem_append_left _ member) different)

namespace Pattern

section

variable {pattern : Pattern} {name fragment : String}

/-- With a validator for a placeholder, in an otherwise sound pattern, the pattern is compiled if the
validator is, and otherwise the validator is reported. -/
theorem compile_addValidator (distinct : pattern.placeholders.Nodup)
    (placed : name ∈ pattern.placeholders)
    (others : ∀ other ∈ pattern.placeholders, other ≠ name → ∀ text,
      pattern.validators.find? other = some text →
        (Expr.compile (validatorSource text.toList)).isOk = true)
    (light : (pattern.addValidator name fragment).compile ≠ .error (.template .tooHeavy)) :
    match Expr.compile (validatorSource fragment.toList) with
    | .ok _ => ∃ compiled, (pattern.addValidator name fragment).compile = .ok compiled
    | .error error => (pattern.addValidator name fragment).compile = .error (.validator name error) := by
  have given : (pattern.validators.insert name fragment).find? name = some fragment := by simp
  have othersToo : ∀ other ∈ pattern.placeholders, other ≠ name → ∀ text,
      (pattern.validators.insert name fragment).find? other = some text →
        (Expr.compile (validatorSource text.toList)).isOk = true := by
    intro other listed different text found
    rw [Bindings.find?_insert, if_neg different] at found
    exact others other listed different text found
  have lightExpr : (templateExpr pattern.defaults.contains
      (tokenize pattern.template)).isTooHeavy = false := by
    by_contra heavy
    exact light (Compiled.ofTemplate_eq_tooHeavy _ _ _ distinct
      ((Bool.not_eq_false _).mp heavy))
  have compiles := Compiled.ofTemplate_eq pattern.template
    (pattern.validators.insert name fragment) pattern.defaults distinct lightExpr
  simp only [compile, addValidator]
  split
  · next expr valid =>
    have all : ∀ other ∈ pattern.placeholders, ∀ text,
        (pattern.validators.insert name fragment).find? other = some text →
          (Expr.compile (validatorSource text.toList)).isOk = true := by
      intro other listed text found
      by_cases same : other = name
      · subst same
        cases given.symm.trans found
        rw [valid]
        rfl
      · exact othersToo other listed same text found
    obtain ⟨list, found⟩ := exists_compileValidators all
    rw [placeholders] at found
    exact ⟨_, by rw [compiles, found]; rfl⟩
  · next error failed =>
    have reported := compileValidators_eq_error placed given failed othersToo
    rw [placeholders] at reported
    rw [compiles, reported]
    rfl

/-- A fragment and the pattern that it is registered with agree, one being compiled if and only if the
other one is, except for two kinds of fragments: an expression that takes in a closing parenthesis
behind it, and a fragment that closes the group around it in a validator that is well-formed. -/
theorem compile_addValidator_agrees_iff (distinct : pattern.placeholders.Nodup)
    (placed : name ∈ pattern.placeholders)
    (others : ∀ other ∈ pattern.placeholders, other ≠ name → ∀ text,
      pattern.validators.find? other = some text →
        (Expr.compile (validatorSource text.toList)).isOk = true)
    (light : (pattern.addValidator name fragment).compile ≠ .error (.template .tooHeavy))
    (own : IsWithinLimits fragment.toList)
    (anchored : IsWithinLimits (validatorSource fragment.toList)) :
    (((pattern.addValidator name fragment).compile.isOk = true ↔
          (Expr.compile fragment.toList).isOk = true) ∧
        ((∃ error, (pattern.addValidator name fragment).compile = .error (.validator name error)) ↔
          ¬ (Expr.compile fragment.toList).isOk = true)) ↔
      ((Expr.compile fragment.toList).isOk = true → IsUnopened (fragment.toList ++ [')'])) ∧
        (IsUnopened fragment.toList →
          ¬ (Expr.compile (validatorSource fragment.toList)).isOk = true) := by
  rw [← isOk_validator_iff_isOk_iff own anchored]
  have result := compile_addValidator distinct placed others light
  cases valid : Expr.compile (validatorSource fragment.toList) with
  | ok expr =>
    rw [valid] at result
    obtain ⟨compiled, result⟩ := result
    simp [result, Except.isOk, Except.toBool]
  | error error =>
    rw [valid] at result
    simp only [result, Except.isOk, Except.toBool, Except.error.injEq, PatternError.validator.injEq,
      true_and, exists_eq', true_iff, Bool.false_eq_true, false_iff, and_self]

/-- A pattern and alternatives as a fragment for its placeholder are both compiled. -/
theorem compile_addValidator_alternatives :
    ((ofTemplate "{ab}").addValidator "ab" "a|ab").compile.isOk = true ↔
      (Expr.compile "a|ab".toList).isOk = true := by
  have accepted : (Expr.compile "a|ab".toList).isOk = true := by decide +kernel
  have valid : (Expr.compile (validatorSource "a|ab".toList)).isOk = true := by decide +kernel
  have placeholders : (ofTemplate "{ab}").placeholders = ["ab"] := by decide +kernel
  have light : ((ofTemplate "{ab}").addValidator "ab" "a|ab").compile ≠
      .error (.template .tooHeavy) := by
    intro heavy
    have compiles : ((ofTemplate "{ab}").addValidator "ab" "a|ab").compile.isOk = true := by
      decide +kernel
    rw [heavy] at compiles
    exact Bool.false_ne_true compiles
  have distinct : (ofTemplate "{ab}").placeholders.Nodup := by simp [placeholders]
  have placed : "ab" ∈ (ofTemplate "{ab}").placeholders := by simp [placeholders]
  have agrees := compile_addValidator_agrees_iff distinct placed (by simp [placeholders])
    light (isWithinLimits_of_isOk accepted) (isWithinLimits_of_isOk valid)
  exact (agrees.mpr ⟨fun _ => ⟨⟨4, 5⟩, rfl⟩, fun ⟨_, fault⟩ => nomatch fault⟩).1

/-- A fragment that is no expression has a validator, and an expression has none. -/
theorem compile_addValidator_disagrees :
    (Expr.compile "a)|(b".toList).isOk = false ∧
      ((ofTemplate "{ab}").addValidator "ab" "a)|(b").compile.isOk = true ∧
      (Expr.compile "(?x)a # c".toList).isOk = true ∧
      ((ofTemplate "{ab}").addValidator "ab" "(?x)a # c").compile.isOk = false := by
  decide +kernel

end

end Pattern

end TextTemplate
