import TextTemplate.CommandLine.Assignment
import TextTemplate.CommandLine.Path
import TextTemplate.Pattern.Basic

/-!
# Invocations

An invocation is what a command line asks for. -/

namespace TextTemplate.CommandLine

/-- What results are printed like: for reading by people, as one JSON object a line, or not at
all. -/
inductive Format
  | human
  | json
  | quiet
deriving DecidableEq, Repr

/-- What a command line asks for. The subjects are those given as arguments, and the assignments
stand in the order given. -/
structure Invocation where
  template : String
  subjects : List String
  validators : List Assignment
  defaults : List Assignment
  file : Option String
  json : Bool
  /-- Whether to print the expression instead of matching. -/
  showSource : Bool
  quiet : Bool
  /-- Whether colours are off in any case. -/
  noColor : Bool
deriving DecidableEq, Repr

/-- Where subjects come from: from the arguments, or from the lines of a file or of the standard
input. -/
inductive SubjectSource
  | arguments (subjects : List String)
  | file (path : String)
  | standardInput
deriving DecidableEq, Repr

namespace Invocation

/-- Where the subjects come from: from the arguments if there are any there, else from the file,
else from the standard input, which a path with the components of a hyphen stands for. -/
def source (invocation : Invocation) : SubjectSource :=
  if invocation.subjects.isEmpty then
    match invocation.file with
    | none => .standardInput
    | some path =>
      if Path.components path = Path.components "-" then .standardInput else .file path
  else .arguments invocation.subjects

def format (invocation : Invocation) : Format :=
  if invocation.quiet then .quiet else if invocation.json then .json else .human

/-- The pattern, with its validators and then its default values set in the order given. -/
def pattern (invocation : Invocation) : Pattern :=
  let validated := invocation.validators.foldl
    (fun pattern assignment => pattern.addValidator assignment.name assignment.value)
    (Pattern.ofTemplate invocation.template)
  invocation.defaults.foldl
    (fun pattern assignment => pattern.addDefault assignment.name assignment.value) validated

end Invocation

end TextTemplate.CommandLine
