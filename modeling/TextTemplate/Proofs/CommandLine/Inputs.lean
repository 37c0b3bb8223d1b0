import TextTemplate.Proofs.CommandLine.Codes
import TextTemplate.Proofs.CommandLine.Subjects

/-!
# Inputs one behind the other

Subjects do not influence each other: a run that reads them from the standard input prints for two
inputs one behind the other what it prints for the first one and then what it prints for the second
one, and of the two exit codes the greater one is left. This needs the first input to end with a
line feed, so that no line goes across. -/

namespace TextTemplate.CommandLine

/-- The same surroundings with a text on the standard input. -/
def Environment.withInput (environment : Environment) (text : String) : Environment :=
  { environment with standardInput := text.toUTF8 }

def Transcript.code (transcript : Transcript) : Nat :=
  if transcript.error.isSome then 2 else if transcript.allMatched then 0 else 1

/-! ## Subjects one behind the other -/

theorem Output.print_append (format : Format) (color : Bool) (items others : List OutputItem) :
    print format color (items ++ others) =
      print format color items ++ print format color others := by
  simp [print]

section Subjects

variable {pattern : Pattern} (coherent : pattern.IsCoherent)

include coherent

theorem code_matchAll_of_error {error : PatternError} (refused : pattern.compile = .error error)
    (subjects : List String) :
    (matchAll pattern subjects).code = if subjects = [] then 0 else 2 := by
  cases subjects with
  | nil => rfl
  | cons subject subjects => simp [matchAll_of_error coherent refused, Transcript.code]

/-- The items of two lists of subjects are printed one behind the other, and the greater exit code
is left. -/
theorem matchAll_append (subjects others : List String) :
    (matchAll pattern (subjects ++ others)).items =
        (matchAll pattern subjects).items ++ (matchAll pattern others).items ∧
      (matchAll pattern (subjects ++ others)).code =
        max (matchAll pattern subjects).code (matchAll pattern others).code := by
  cases compiles : pattern.compile with
  | ok compiled =>
    obtain ⟨error, items, allMatched⟩ := matchAll_of_ok coherent compiles subjects
    obtain ⟨error', items', allMatched'⟩ := matchAll_of_ok coherent compiles others
    obtain ⟨error'', items'', allMatched''⟩ :=
      matchAll_of_ok coherent compiles (subjects ++ others)
    constructor
    · rw [items, items', items'', List.map_append]
    · rw [List.all_append, ← allMatched, ← allMatched'] at allMatched''
      simp only [Transcript.code, error, error', error'', allMatched'']
      cases (matchAll pattern subjects).allMatched <;>
        cases (matchAll pattern others).allMatched <;> rfl
  | error error =>
    constructor
    · cases subjects with
      | nil => rfl
      | cons subject subjects =>
        cases others with
        | nil => simp [matchAll]
        | cons other others => simp [matchAll_of_error coherent compiles]
    · simp only [code_matchAll_of_error coherent compiles, List.append_eq_nil_iff]
      by_cases first : subjects = [] <;> by_cases rest : others = [] <;> simp [first, rest]

end Subjects

/-! ## Runs -/

section Runs

variable {arguments : List String} {invocation : Invocation}
  (parsed : Invocation.ofArguments arguments = .ok invocation)
  (matching : invocation.showSource = false) (source : invocation.source = .standardInput)
  (environment : Environment)

include parsed matching source

/-- What a run does with a text on the standard input depends on the lines of that text. -/
theorem run_withInput (text : String) :
    (run (environment.withInput text) arguments).output =
        Output.print invocation.format (environment.takesColors && !invocation.noColor)
          (matchAll invocation.pattern (Subjects.ofText text)).items ∧
      (run (environment.withInput text) arguments).code =
        (matchAll invocation.pattern (Subjects.ofText text)).code := by
  have read : Subjects.ofSource (environment.withInput text) invocation.source =
      .ok (Subjects.ofText text) := by
    rw [source]
    change Subjects.ofRead "<stdin>" (.ok text.toUTF8) = _
    rw [Subjects.ofRead, Subjects.ofBytes?_toUTF8]
  have performed := perform_of_read matching read
  rw [run_of_ofArguments parsed, output_runInvocation, code_runInvocation, performed]
  exact ⟨rfl, rfl⟩

/-- Subjects do not influence each other: for two inputs one behind the other, the first of which
ends its last line, the output is that for the first one and then that for the second one, and the
exit code is the greater one of theirs. This holds for a pattern that cannot be compiled too, which
ends a run with an error exactly if there is a line. -/
theorem run_withInput_append {first : String}
    (ended : first = "" ∨ first.toList.getLast? = some '\n') (rest : String) :
    (run (environment.withInput (first ++ rest)) arguments).output =
        (run (environment.withInput first) arguments).output ++
          (run (environment.withInput rest) arguments).output ∧
      (run (environment.withInput (first ++ rest)) arguments).code =
        max (run (environment.withInput first) arguments).code
          (run (environment.withInput rest) arguments).code ∧
      ∀ error, invocation.pattern.compile = .error error → ∀ text,
        (run (environment.withInput text) arguments).code = if text = "" then 0 else 2 := by
  have runs := run_withInput parsed matching source environment
  have coherent := invocation.isCoherent_pattern
  obtain ⟨items, code⟩ := matchAll_append coherent (Subjects.ofText first) (Subjects.ofText rest)
  refine ⟨?_, ?_, ?_⟩
  · rw [(runs _).1, (runs _).1, (runs _).1, Subjects.ofText_append ended, items,
      Output.print_append]
  · rw [(runs _).2, (runs _).2, (runs _).2, Subjects.ofText_append ended, code]
  · intro error refused text
    rw [(runs text).2, code_matchAll_of_error coherent refused]
    simp only [Subjects.ofText_eq_nil_iff]

end Runs

/-- The line of the first input matches, and one of the two lines of the second input does not. The
standard input is asked for by a path that goes on behind the hyphen and stays there. -/
theorem run_withInput_append_unmatched :
    let environment : Environment := ⟨.empty, fun _ => .error .missing, none, false⟩
    let arguments := ["-r", "ab=[0-9]+", "-f-/.", "#{ab}#"]
    let outcome := run (environment.withInput ("#1#\n" ++ "#x#\n#2#")) arguments
    outcome.output = "✓ #1#\n    ab = 1\n✗ #x#\n✓ #2#\n    ab = 2\n" ∧ outcome.code = 1 := by
  intro environment arguments outcome
  let invocation : Invocation :=
    ⟨"#{ab}#", [], [⟨"ab", "[0-9]+"⟩], [], some "-/.", false, false, false, false⟩
  have parsed : Invocation.ofArguments arguments = .ok invocation := rfl
  have runs := run_withInput parsed rfl rfl environment
  have ended : "#1#\n".toList.getLast? = some '\n' := by decide
  obtain ⟨output, code, _⟩ :=
    run_withInput_append parsed rfl rfl environment (.inr ended) "#x#\n#2#"
  have matched : (run (environment.withInput "#1#\n") arguments).output = "✓ #1#\n    ab = 1\n" :=
    (runs "#1#\n").1.trans (by decide +kernel)
  have unmatched : (run (environment.withInput "#x#\n#2#") arguments).output =
      "✗ #x#\n✓ #2#\n    ab = 2\n" :=
    (runs "#x#\n#2#").1.trans (by decide +kernel)
  have zero : (run (environment.withInput "#1#\n") arguments).code = 0 :=
    (runs "#1#\n").2.trans (by decide +kernel)
  have one : (run (environment.withInput "#x#\n#2#") arguments).code = 1 :=
    (runs "#x#\n#2#").2.trans (by decide +kernel)
  rw [matched, unmatched] at output
  rw [zero, one] at code
  exact ⟨output, code⟩

end TextTemplate.CommandLine
