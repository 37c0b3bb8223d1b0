import TextTemplate.CommandLine.Invocation
import TextTemplate.CommandLine.Parameter

/-!
# Reading a command line

A command line is read argument by argument. An argument that starts with two hyphens gives an
option by its long name, one that starts with a single hyphen gives options by their short names,
and all others are values of the option before them, or the template and the subjects. Behind two
hyphens alone there are no options any more. An option that has got its value as an argument of its
own waits with it until the next option or positional argument comes, and only then the value is
looked at. -/

namespace TextTemplate.CommandLine

/-- Why a command line leads to no invocation: it asks for help or for the version, or something is
wrong with it. -/
inductive Halt
  | help
  | version
  | usage (error : UsageError)
deriving DecidableEq, Repr

/-- What has been read of a command line. The lists have the last one first, and each parameter that
was given is there once. -/
structure Arguments where
  template : Option String
  subjects : List String
  validators : List Assignment
  defaults : List Assignment
  file : Option String
  given : List Parameter
  /-- The option that waits, with its value if that has been read. -/
  waiting : Option (Parameter × Option String)
deriving DecidableEq, Repr

namespace Arguments

def none : Arguments := ⟨.none, [], [], [], .none, [], .none⟩

def give (parameter : Parameter) (arguments : Arguments) : Except Halt Arguments :=
  if arguments.given.contains parameter then
    if parameter.isRepeatable then .ok arguments else .error (.usage (.repeated parameter))
  else .ok { arguments with given := parameter :: arguments.given }

/-- The assignment that the value of an option spells. -/
def assignment (option : Parameter) (value : String) : Except Halt Assignment :=
  match Assignment.ofText value with
  | .ok assignment => .ok assignment
  | .error error => .error (.usage (.badValue value option error))

def store (option : Parameter) (value : String) (arguments : Arguments) :
    Except Halt Arguments := do
  let arguments ← arguments.give option
  match option with
  | .validator =>
    return { arguments with validators := (← assignment option value) :: arguments.validators }
  | .default =>
    return { arguments with defaults := (← assignment option value) :: arguments.defaults }
  | .file =>
    if value.isEmpty then throw (.usage (.valueMissing option))
    return { arguments with file := some value }
  | _ => return arguments

/-- Looks at the value of the option that waits, if there is one. -/
def settle (arguments : Arguments) : Except Halt Arguments :=
  match arguments.waiting with
  | .none => .ok arguments
  | some (option, .none) => .error (.usage (.valueMissing option))
  | some (option, some value) => { arguments with waiting := .none }.store option value

def flag (option : Parameter) (arguments : Arguments) : Except Halt Arguments := do
  let arguments ← arguments.settle
  match option with
  | .help => throw .help
  | .version => throw .version
  | _ => arguments.give option

def attached (option : Parameter) (value : String) (arguments : Arguments) :
    Except Halt Arguments := do
  (← arguments.settle).store option value

/-- Takes an option whose value is the next argument. -/
def await (option : Parameter) (arguments : Arguments) : Except Halt Arguments := do
  let arguments ← arguments.settle
  return { arguments with waiting := some (option, .none) }

/-- Takes a positional argument: the first one is the template, and the others are subjects. -/
def positional (text : String) (arguments : Arguments) : Except Halt Arguments := do
  let arguments ← arguments.settle
  match arguments.template with
  | .none => return { (← arguments.give .template) with template := some text }
  | some _ => return { (← arguments.give .subjects) with subjects := text :: arguments.subjects }

/-- Takes an argument that starts with two hyphens; `text` is what follows them. -/
def long (text : List Char) (arguments : Arguments) : Except Halt Arguments :=
  let name := String.ofList (text.takeWhile (· ≠ '='))
  match Parameter.ofLongName? name, text.dropWhile (· ≠ '=') with
  | .none, _ => .error (.usage (.unknownOption ("--" ++ name)))
  | some option, [] => if option.takesValue then arguments.await option else arguments.flag option
  | some option, _ :: value =>
    if option.takesValue then arguments.attached option (String.ofList value)
    else .error (.usage (.needlessValue (String.ofList value) option))

def short : List Char → Arguments → Except Halt Arguments
  | [], arguments => .ok arguments
  | letter :: rest, arguments =>
    match Parameter.ofShortName? letter with
    | .none => .error (.usage (.unknownOption (String.ofList ['-', letter])))
    | some option =>
      if option.takesValue then
        match rest with
        | [] => arguments.await option
        | '=' :: value => arguments.attached option (String.ofList value)
        | value => arguments.attached option (String.ofList value)
      else do short rest (← arguments.flag option)

def plain (text : String) (arguments : Arguments) : Except Halt Arguments :=
  match arguments.waiting with
  | some (option, .none) => .ok { arguments with waiting := some (option, some text) }
  | _ => arguments.positional text

/-- Takes the arguments of a command line; behind two hyphens alone, all are positional. -/
def takeAll : (positionalOnly : Bool) → List String → Arguments → Except Halt Arguments
  | _, [], arguments => .ok arguments
  | true, text :: rest, arguments => do takeAll true rest (← arguments.positional text)
  | false, text :: rest, arguments =>
    match text.toList with
    | ['-', '-'] => takeAll true rest arguments
    | '-' :: '-' :: option => do takeAll false rest (← arguments.long option)
    | '-' :: letter :: letters => do takeAll false rest (← arguments.short (letter :: letters))
    | _ => do takeAll false rest (← arguments.plain text)

/-- The first of some parameters that is given together with its rival. -/
def conflict? (given : List Parameter) : Option UsageError :=
  given.reverse.findSome? fun parameter =>
    match parameter.rival? with
    | some rival => if given.contains rival then some (.conflict parameter rival) else .none
    | .none => .none

/-- The invocation that the arguments ask for when all have been read. -/
def finish (arguments : Arguments) : Except Halt Invocation := do
  let arguments ← arguments.settle
  if let some error := conflict? arguments.given then throw (.usage error)
  match arguments.template with
  | .none => throw (.usage .templateMissing)
  | some template =>
    return {
      template
      subjects := arguments.subjects.reverse
      validators := arguments.validators.reverse
      defaults := arguments.defaults.reverse
      file := arguments.file
      json := arguments.given.contains .json
      showSource := arguments.given.contains .showSource
      quiet := arguments.given.contains .quiet
      noColor := arguments.given.contains .noColor }

end Arguments

/-- The invocation that a command line asks for. -/
def Invocation.ofArguments (texts : List String) : Except Halt Invocation := do
  (← Arguments.takeAll false texts .none).finish

end TextTemplate.CommandLine
