import TextTemplate.CommandLine.Run
import TextTemplate.Proofs.Pattern.Coherence
import TextTemplate.Proofs.Session.Configuration

/-!
# Matching one subject after the other

A run uses one pattern for all subjects, and the pattern keeps its compiled form from one subject to
the next. Each subject is matched as the pattern is configured all the same. If the pattern cannot
be compiled, the run ends at its first subject, before anything is printed. -/

namespace TextTemplate.CommandLine

/-! ## The pattern of an invocation -/

/-- The changes that make the pattern of an invocation: its validators and then its default
values. -/
def Invocation.changes (invocation : Invocation) : List Change :=
  invocation.validators.map (fun assignment => ⟨.validator, assignment.name, assignment.value⟩) ++
    invocation.defaults.map fun assignment => ⟨.default, assignment.name, assignment.value⟩

theorem Invocation.pattern_eq_configured (invocation : Invocation) :
    invocation.pattern = Pattern.configured invocation.template invocation.changes := by
  rw [Pattern.configured, changes, List.foldl_append, List.foldl_map, List.foldl_map]
  rfl

theorem Invocation.isCoherent_pattern (invocation : Invocation) :
    invocation.pattern.IsCoherent := by
  rw [pattern_eq_configured]
  exact Pattern.isCoherent_of_compiled_eq_none (Pattern.compiled_configured ..)

/-! ## All subjects -/

variable {pattern : Pattern}

/-- A pattern that cannot be compiled ends the run at the first subject. -/
theorem matchAll_of_error (coherent : pattern.IsCoherent) {error : PatternError}
    (refused : pattern.compile = .error error) (subject : String) (subjects : List String) :
    matchAll pattern (subject :: subjects) =
      ⟨[], [], false, some (.pattern pattern.template error)⟩ := by
  have nothing : pattern.compiled = none := by
    cases kept : pattern.compiled with
    | none => rfl
    | some compiled => exact nomatch refused.symm.trans (coherent compiled kept)
  simp [matchAll, Pattern.extract, Pattern.prepare, nothing, refused]

/-- A pattern that can be compiled gives a result for each subject, in order, and no error. -/
theorem matchAll_of_ok (coherent : pattern.IsCoherent) {compiled : Compiled}
    (compiles : pattern.compile = .ok compiled) (subjects : List String) :
    (matchAll pattern subjects).error = none ∧
      (matchAll pattern subjects).items = subjects.map (fun subject =>
        .result subject (compiled.extract pattern.defaults subject).1) ∧
      (matchAll pattern subjects).allMatched = subjects.all fun subject =>
        (compiled.extract pattern.defaults subject).1.isMatched := by
  induction subjects generalizing pattern with
  | nil => exact ⟨rfl, rfl, rfl⟩
  | cons subject subjects ih =>
    have outcome := coherent.extract_outcome subject
    rw [compiles] at outcome
    -- The next subject meets the same configuration, with its compiled form kept.
    have next : (pattern.extract subject).pattern.uncompiled = pattern.uncompiled := by
      rw [Pattern.extract_pattern, Pattern.uncompiled_prepare]
    have nextCoherent : (pattern.extract subject).pattern.IsCoherent := by
      rw [Pattern.extract_pattern]
      exact coherent.prepare
    have nextCompiles : (pattern.extract subject).pattern.compile = .ok compiled := by
      rw [← Pattern.compile_uncompiled, next, Pattern.compile_uncompiled, compiles]
    have nextDefaults : (pattern.extract subject).pattern.defaults = pattern.defaults := by
      rw [← Pattern.defaults_uncompiled, next, Pattern.defaults_uncompiled]
    obtain ⟨error, items, allMatched⟩ := ih nextCoherent nextCompiles
    rw [nextDefaults] at items allMatched
    simp only [matchAll, outcome, Except.map, error, items, allMatched, List.map_cons,
      List.all_cons, and_self]

end TextTemplate.CommandLine
