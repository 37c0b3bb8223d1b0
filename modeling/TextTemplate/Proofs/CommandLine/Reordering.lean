import Mathlib.Data.List.Basic
import TextTemplate.Proofs.CommandLine.Codes
import TextTemplate.Proofs.CommandLine.Writing

/-!
# Command lines in another order

The order in which options are given does not matter, nor how they are written. Only positional
arguments count by their places, and of several validators or several default values of one name the
last one counts. -/

namespace TextTemplate.CommandLine

namespace Clause

/-- Clauses stand in another order, which is the same among the positional arguments, among the
validators of each name and among the default values of each name. -/
structure IsReordering (clauses other : List Clause) : Prop where
  perm : clauses.Perm other
  positionals : positionals clauses = positionals other
  assignments : ∀ option ∈ [Parameter.validator, .default], ∀ name,
    (assignments option clauses).filter (·.name = name) =
      (assignments option other).filter (·.name = name)

variable {clauses other : List Clause} {template : String} {subjects : List String}

/-- An option that must not be repeated has the same values in any order. -/
theorem IsAccepted.values_eq_of_perm (accepted : IsAccepted clauses) (perm : clauses.Perm other)
    {option : Parameter} (single : option.isRepeatable = false) :
    values option clauses = values option other := by
  have alone : ∀ {clauses}, IsAccepted clauses →
      (values option clauses).Pairwise fun _ _ => False := by
    intro clauses accepted
    refine List.pairwise_filterMap.mpr (accepted.tolerant.imp ?_)
    intro first second tolerates text given text' given'
    rw [valueOf?_eq_some_iff.mp given, valueOf?_eq_some_iff.mp given'] at tolerates
    exact absurd (single.symm.trans (tolerates option rfl rfl)) (by decide)
  exact List.Perm.eq_of_pairwise (fun _ _ _ _ => False.elim) (alone accepted)
    (alone (accepted.perm perm)) (perm.filterMap _)

/-- What clauses in another order ask for. -/
theorem IsReordering.ofClauses_eq (reordering : IsReordering clauses other)
    (accepted : IsAccepted clauses) :
    Invocation.ofClauses template subjects other =
      { Invocation.ofClauses template subjects clauses with
        validators := Clause.assignments .validator other
        defaults := Clause.assignments .default other } := by
  have perm := reordering.perm
  have given : ∀ option, gives option clauses = gives option other := fun _ => perm.any_eq
  have file : values .file clauses = values .file other := accepted.values_eq_of_perm perm rfl
  simp only [Invocation.ofClauses, given, file]

end Clause

/-! ## Patterns and runs -/

section Runs

variable {invocation : Invocation} {validators defaults : List Assignment}

/-- Assignments to different names lead to the same pattern in any order. -/
theorem Invocation.pattern_eq_of_filter_eq
    (sameValidators : ∀ name, invocation.validators.filter (·.name = name) =
      validators.filter (·.name = name))
    (sameDefaults : ∀ name, invocation.defaults.filter (·.name = name) =
      defaults.filter (·.name = name)) :
    { invocation with validators, defaults }.pattern = invocation.pattern := by
  rw [pattern_eq_configured, pattern_eq_configured]
  refine (Pattern.configured_of_filter_eq (fun setting name => ?_) _).symm
  cases setting <;>
    simp [changes, List.filter_map, Function.comp_def, sameValidators, sameDefaults]

/-- Validators and default values matter to a run through the pattern alone. -/
theorem runInvocation_eq_of_pattern
    (pattern : { invocation with validators, defaults }.pattern = invocation.pattern)
    (environment : Environment) :
    runInvocation environment { invocation with validators, defaults } =
      runInvocation environment invocation := by
  have performed : perform environment { invocation with validators, defaults } =
      perform environment invocation := by
    unfold perform
    rw [pattern]
    rfl
  unfold runInvocation
  rw [performed]
  rfl

end Runs

open Clause

/-- Neither the order of the options nor their spelling matters: command lines that write the same
clauses, in orders that differ only as they may, are accepted together and run alike. -/
theorem run_eq_of_isReordering {clauses other : List Clause} {texts otherTexts : List String}
    {invocation : Invocation} (writes : WritesAll clauses texts)
    (otherWrites : WritesAll other otherTexts) (reordering : IsReordering clauses other)
    (parsed : Invocation.ofArguments texts = .ok invocation) :
    (∃ asked, Invocation.ofArguments otherTexts = .ok asked) ∧
      ∀ environment, run environment otherTexts = run environment texts := by
  obtain ⟨accepted, template, subjects, positionals, rfl⟩ :=
    Invocation.ofArguments_eq_ok_iff.mp parsed
  rw [writes.ofTexts_eq] at accepted positionals parsed
  have asked : Invocation.ofArguments otherTexts =
      .ok (Invocation.ofClauses template subjects other) := by
    refine Invocation.ofArguments_eq_ok_iff.mpr ?_
    rw [otherWrites.ofTexts_eq, ← reordering.positionals]
    exact ⟨accepted.perm reordering.perm, template, subjects, positionals, rfl⟩
  refine ⟨⟨_, asked⟩, fun environment => ?_⟩
  rw [run_of_ofArguments asked, run_of_ofArguments parsed, reordering.ofClauses_eq accepted]
  apply runInvocation_eq_of_pattern
  apply Invocation.pattern_eq_of_filter_eq
  · exact reordering.assignments .validator (by decide)
  · exact reordering.assignments .default (by decide)

/-- The options stand in another order and are written in other ways, and of the two validators of a
name the same one counts. -/
theorem run_eq_of_isReordering_spelled :
    let environment : Environment := ⟨.empty, fun _ => .error .missing, none, false⟩
    let texts :=
      ["-rab=x", "-q", "#{ab}#", "--validator=ab=[0-9]+", "#12#", "-r", "cd=z", "#x#"]
    let otherTexts :=
      ["#{ab}#", "--validator", "cd=z", "-r", "ab=x", "#12#", "-r=ab=[0-9]+", "#x#", "--quiet"]
    run environment otherTexts = run environment texts ∧ (run environment texts).code = 1 := by
  intro environment texts otherTexts
  let clauses : List Clause := [.value .validator "ab=x", .flag .quiet, .positional "#{ab}#",
    .value .validator "ab=[0-9]+", .positional "#12#", .value .validator "cd=z", .positional "#x#"]
  let other : List Clause := [.positional "#{ab}#", .value .validator "cd=z",
    .value .validator "ab=x", .positional "#12#", .value .validator "ab=[0-9]+",
    .positional "#x#", .flag .quiet]
  have plain : ∀ {text : String}, text.toList.head? ≠ some '-' → Writes (.positional text) [text] :=
    fun noHyphen => .positional (.inr noHyphen)
  have long : Parameter.ofLongName? "validator" = some .validator := rfl
  have short : Parameter.ofShortName? 'r' = some .validator := rfl
  have quiet : Parameter.ofLongName? "quiet" = some .quiet := rfl
  have quiet' : Parameter.ofShortName? 'q' = some .quiet := rfl
  have writes : WritesAll clauses texts :=
    .cons (.value rfl (.short short (by decide) (by decide))) <| .cons (.short quiet' rfl) <|
    .cons (plain (by decide)) <| .cons (.value rfl (.long long)) <| .cons (plain (by decide)) <|
    .cons (.value rfl (.shortApart short (.inr (by decide)))) <| .cons (plain (by decide)) .nil
  have otherWrites : WritesAll other otherTexts :=
    .cons (plain (by decide)) <| .cons (.value rfl (.longApart long (.inr (by decide)))) <|
    .cons (.value rfl (.shortApart short (.inr (by decide)))) <| .cons (plain (by decide)) <|
    .cons (.value rfl (.shortSign short)) <| .cons (plain (by decide)) <|
    .cons (.long quiet rfl) .nil
  have reordering : IsReordering clauses other := by
    refine ⟨by decide, rfl, ?_⟩
    intro option member name
    obtain rfl | rfl : option = .validator ∨ option = .default := by simpa using member
    · change [⟨"ab", "x"⟩, ⟨"ab", "[0-9]+"⟩, ⟨"cd", "z"⟩].filter _ =
        [⟨"cd", "z"⟩, ⟨"ab", "x"⟩, ⟨"ab", "[0-9]+"⟩].filter fun assignment : Assignment => _
      by_cases same : "cd" = name
      · simp [← same]
      · simp [List.filter_cons, same]
    · rfl
  let invocation : Invocation := ⟨"#{ab}#", ["#12#", "#x#"],
    [⟨"ab", "x"⟩, ⟨"ab", "[0-9]+"⟩, ⟨"cd", "z"⟩], [], none, false, false, true, false⟩
  have parsed : Invocation.ofArguments texts = .ok invocation := rfl
  have read : Subjects.ofSource environment invocation.source = .ok ["#12#", "#x#"] := rfl
  have unmatched : (matchAll invocation.pattern ["#12#", "#x#"]).error = none ∧
      (matchAll invocation.pattern ["#12#", "#x#"]).allMatched = false := by decide +kernel
  obtain ⟨_, same⟩ := run_eq_of_isReordering writes otherWrites reordering parsed
  refine ⟨same environment, ?_⟩
  rw [run_of_ofArguments parsed, code_runInvocation, perform_of_read rfl read]
  simp [unmatched]

end TextTemplate.CommandLine
