import TextTemplate.Proofs.CommandLine.Matching

/-!
# Exit codes

A run that ends with an error has printed nothing to the standard output: the pattern can only fail
at the first subject, and reading the subjects comes before that. The exit code tells what has
happened, and it does not depend on what the results are printed like. -/

namespace TextTemplate.CommandLine

variable {environment : Environment} {invocation : Invocation}

section Subjects

variable (matching : invocation.showSource = false)

include matching

theorem perform_of_read {subjects : List String}
    (read : Subjects.ofSource environment invocation.source = .ok subjects) :
    perform environment invocation =
      { matchAll invocation.pattern subjects with
        records := .subjects subjects.length ::
          (matchAll invocation.pattern subjects).records } := by
  simp [perform, matching, read]

end Subjects

/-! ## Runs -/

theorem code_runInvocation (environment : Environment) (invocation : Invocation) :
    (runInvocation environment invocation).code =
      if (perform environment invocation).error.isSome then 2
      else if (perform environment invocation).allMatched then 0 else 1 := by
  unfold runInvocation
  dsimp only
  cases (perform environment invocation).error <;> simp

theorem output_runInvocation (environment : Environment) (invocation : Invocation) :
    (runInvocation environment invocation).output = Output.print invocation.format
      (environment.takesColors && !invocation.noColor) (perform environment invocation).items := by
  unfold runInvocation
  dsimp only
  split <;> rfl

theorem run_of_ofArguments {arguments : List String}
    (parsed : Invocation.ofArguments arguments = .ok invocation) :
    run environment arguments = runInvocation environment invocation := by
  rw [run, parsed]

end TextTemplate.CommandLine
