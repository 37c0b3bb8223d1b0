import TextTemplate.CommandLine.Invocation
import TextTemplate.Text.Json

/-!
# Output

What is printed is put together from texts and from changes of colour. Printing with colours writes
the changes as control codes, and printing without leaves them out. -/

namespace TextTemplate.CommandLine

/-- A way to print characters: in green for a match, in red for a subject that does not match, or
dimmed for names. -/
inductive Style
  | green
  | red
  | dim
deriving DecidableEq, Repr

/-- A part of the output: a text, or a change of the style for what follows, to another one or to
none. -/
inductive Fragment
  | text (content : String)
  | style (style : Style)
  | plain
deriving DecidableEq, Repr

namespace Fragment

def plainCode : String := "\x1b[0m"

/-- The control codes for a style: all others end, and it begins. -/
def styleCode : Style → String
  | .green => plainCode ++ "\x1b[32m"
  | .red => plainCode ++ "\x1b[31m"
  | .dim => plainCode ++ "\x1b[2m"

def render (color : Bool) : Fragment → String
  | text content => content
  | style kind => if color then styleCode kind else ""
  | plain => if color then plainCode else ""

def styled (kind : Style) (content : String) : List Fragment := [.style kind, .text content, .plain]

end Fragment

/-- Something to be printed: the text of an expression, or a subject with what its match has given.
The values of a match come in any order; there are none for a subject that does not match. -/
inductive OutputItem
  | source (text : String)
  | verdict (subject : String) (values? : Option (List (String × String)))
deriving DecidableEq, Repr

/-- The item for the result of a subject. -/
def OutputItem.result (subject : String) (result : MatchResult) : OutputItem :=
  .verdict subject result.entries?

namespace Output

def sorted (values : List (String × String)) : List (String × String) :=
  (Bindings.ofList values).entries

def humanValue (name value : String) : List Fragment :=
  Fragment.styled .dim ("    " ++ name ++ " =") ++ [.text (" " ++ value ++ "\n")]

/-- A subject with what its match has given, for people: a sign and the subject, and below it the
values in the order of their names. -/
def human (subject : String) : Option (List (String × String)) → List Fragment
  | none => Fragment.styled .red "✗" ++ [.text (" " ++ subject ++ "\n")]
  | some values =>
    Fragment.styled .green "✓" ++ [.text (" " ++ subject ++ "\n")]
      ++ (sorted values).flatMap fun (name, value) => humanValue name value

/-- A subject with what its match has given, as a JSON object on a line with its members in
alphabetical order, and so the values. -/
def json (subject : String) : Option (List (String × String)) → List Char
  | none =>
    "\x7b\"matched\":false,\"subject\":".toList ++ Text.Json.encode subject.toList ++ ['\x7d', '\n']
  | some values =>
    "\x7b\"matched\":true,\"subject\":".toList ++ Text.Json.encode subject.toList
      ++ ",\"values\":".toList ++ Text.Json.encodeObject (sorted values) ++ ['\x7d', '\n']

def fragments (format : Format) : OutputItem → List Fragment
  | .source text => [.text (text ++ "\n")]
  | .verdict subject values? =>
    match format with
    | .human => human subject values?
    | .json => [.text (String.ofList (json subject values?))]
    | .quiet => []

def print (format : Format) (color : Bool) (items : List OutputItem) : String :=
  String.join ((items.flatMap (fragments format)).map (Fragment.render color))

end Output

end TextTemplate.CommandLine
