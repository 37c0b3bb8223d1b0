import TextTemplate.CommandLine.Assignment
import TextTemplate.Text.ControlCodes
import TextTemplate.Text.Lines

/-!
# Parameters of the command line

The parameters that a command line can give, how they are spelled, and what can be wrong with
them. -/

namespace TextTemplate.CommandLine

inductive Parameter
  | template
  | subjects
  | validator
  | default
  | file
  | json
  | showSource
  | quiet
  | noColor
  | help
  | version
deriving DecidableEq, Repr

namespace Parameter

/-- The options, which are spelled by name, with their long names. -/
def longNames : List (String × Parameter) :=
  [("validator", validator), ("default", default), ("file", file), ("json", json),
   ("show-regex", showSource), ("quiet", quiet), ("no-color", noColor), ("help", help),
   ("version", version)]

def ofLongName? (name : String) : Option Parameter := longNames.lookup name

def ofShortName? : Char → Option Parameter
  | 'r' => some validator
  | 'd' => some default
  | 'f' => some file
  | 'q' => some quiet
  | 'h' => some help
  | 'V' => some version
  | _ => none

def takesValue : Parameter → Bool
  | validator | default | file => true
  | _ => false

def isRepeatable : Parameter → Bool
  | subjects | validator | default => true
  | _ => false

def display : Parameter → String
  | template => "<TEMPLATE>"
  | subjects => "[SUBJECTS]..."
  | validator => "--validator <NAME=REGEX>"
  | default => "--default <NAME=VALUE>"
  | file => "--file <FILE>"
  | json => "--json"
  | showSource => "--show-regex"
  | quiet => "--quiet"
  | noColor => "--no-color"
  | help => "--help"
  | version => "--version"

/-- The parameter that must not be given together with this one. -/
def rival? : Parameter → Option Parameter
  | file => some subjects
  | subjects => some file
  | json => some quiet
  | quiet => some json
  | _ => none

end Parameter

/-- What is wrong with a command line. A missing value may be an empty one that cannot be used. Of
two parameters that exclude each other, the `first` was given first. -/
inductive UsageError
  | templateMissing
  | unknownOption (text : String)
  | needlessValue (value : String) (option : Parameter)
  | valueMissing (option : Parameter)
  | badValue (value : String) (option : Parameter) (error : AssignmentError)
  | conflict (first second : Parameter)
  | repeated (parameter : Parameter)
deriving DecidableEq, Repr

namespace UsageError

/-- What ends a part of a message that is marked by its style. -/
def markEnd : String := "\x1b[0m"

def advice : String := s!"\n\nFor more information, try '\x1b[1m--help{markEnd}'.\n"

/-- The message for an error as it is written to a terminal, up to the end of its first line at
least. Only those marks are in it that end behind a text from the command line. -/
def marked (error : UsageError) : String :=
  "error: " ++ match error with
    | templateMissing => "the following required arguments were not provided:"
    | unknownOption text => s!"unexpected argument '{text}{markEnd}' found"
    | needlessValue value option =>
      s!"unexpected value '{value}{markEnd}' for '{option.display}' found; no more were expected"
    | valueMissing option => s!"a value is required for '{option.display}' but none was supplied"
    | badValue value option error =>
      s!"invalid value '{value}{markEnd}' for '{option.display}': {error.message}{advice}"
    | conflict first second =>
      s!"the argument '{first.display}' cannot be used with '{second.display}'"
    | repeated parameter => s!"the argument '{parameter.display}' cannot be used multiple times"

/-- The first line of the message for an error, without control codes. -/
def message (error : UsageError) (medium : Text.ControlCodes.Medium) : String :=
  let plain := Text.ControlCodes.strip medium error.marked.toList
  String.ofList ((Text.Lines.split '\n' '\r' plain).head?.getD [])

end UsageError

end TextTemplate.CommandLine
