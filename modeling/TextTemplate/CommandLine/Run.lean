import TextTemplate.CommandLine.Arguments
import TextTemplate.CommandLine.Help
import TextTemplate.CommandLine.LogFilter
import TextTemplate.CommandLine.Output
import TextTemplate.CommandLine.Subjects

/-!
# Running the program

A run reads the command line, builds the pattern, reads the subjects and matches them one after the
other. It ends with an exit code: zero if all subjects match, one if some do not, and two after an
error.

Some of what a run shows or meets is left out: the times and the colours of the log, the lines of the
message for a wrong command line behind the first one, arguments and paths that are no text, a
standard input that cannot be read to its end, and a reader of the output that goes away. -/

namespace TextTemplate.CommandLine

/-- What a run leaves behind: the exit code, and what is printed to the standard output and to the
standard error. -/
structure Outcome where
  code : Nat
  output : String
  errors : String
deriving DecidableEq, Repr

/-- Why a run ends early: the pattern cannot be compiled, or the subjects cannot be read. -/
inductive RunError
  | pattern (template : String) (error : PatternError)
  | subjects (error : SubjectError)
deriving DecidableEq, Repr

/-- The message for an error, followed by the messages of its causes. -/
def RunError.message : RunError → String
  | pattern template error => s!"invalid template '{template}': {error.message}"
  | subjects error => s!"{error.message}: {error.fault.message}"

/-- What a run has done: the records of the log and the items printed, in order, whether all
subjects match, and the error that it has ended with, if there is one. -/
structure Transcript where
  records : List LogRecord
  items : List OutputItem
  allMatched : Bool
  error : Option RunError
deriving DecidableEq, Repr

/-- Matches subjects one after the other, up to the first error. -/
def matchAll (pattern : Pattern) : List String → Transcript
  | [] => ⟨[], [], true, none⟩
  | subject :: subjects =>
    let use := pattern.extract subject
    let records := use.events.map LogRecord.ofEvent
    match use.outcome with
    | .error error => ⟨records, [], false, some (.pattern pattern.template error)⟩
    | .ok result =>
      let rest := matchAll use.pattern subjects
      ⟨records ++ rest.records, .result subject result :: rest.items,
        result.isMatched && rest.allMatched, rest.error⟩

def perform (environment : Environment) (invocation : Invocation) : Transcript :=
  let pattern := invocation.pattern
  if invocation.showSource then
    let use := pattern.source
    let records := use.events.map LogRecord.ofEvent
    match use.outcome with
    | .error error => ⟨records, [], false, some (.pattern invocation.template error)⟩
    | .ok source => ⟨records, [.source source], true, none⟩
  else
    match Subjects.ofSource environment invocation.source with
    | .error error => ⟨[], [], false, some (.subjects error)⟩
    | .ok subjects =>
      let transcript := matchAll pattern subjects
      { transcript with records := .subjects subjects.length :: transcript.records }

/-- Runs an invocation. The output has colours if it goes to a terminal that takes them and they are
not switched off. -/
def runInvocation (environment : Environment) (invocation : Invocation) : Outcome :=
  let transcript := perform environment invocation
  let color := environment.takesColors && !invocation.noColor
  let output := Output.print invocation.format color transcript.items
  let log := (LogFilter.ofSetting environment.logFilter).lines transcript.records
  match transcript.error with
  | some error => ⟨2, output, log ++ "Error: " ++ error.message ++ "\n"⟩
  | none => ⟨if transcript.allMatched then 0 else 1, output, log⟩

/-- Runs the program with a command line. -/
def run (environment : Environment) (arguments : List String) : Outcome :=
  match Invocation.ofArguments arguments with
  | .error .help => ⟨0, helpText, ""⟩
  | .error .version => ⟨0, versionText ++ "\n", ""⟩
  | .error (.usage error) => ⟨2, "", error.message .bytes⟩
  | .ok invocation => runInvocation environment invocation

end TextTemplate.CommandLine
