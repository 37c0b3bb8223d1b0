import TextTemplate.CommandLine.Log
import TextTemplate.Expr.Reader
import TextTemplate.Expr.Shape
import TextTemplate.Unicode.Newer

/-!
# Rules of a log filter

A rule says up to which level some records of the log are written. It is spelled as a level, as the
start of the names of some parts of the program, or as both with an equals sign between them.
Brackets behind the start of the names hold the name of a phase of the work, a field in braces, or
both; a field is a name, perhaps with a value. -/

namespace TextTemplate.CommandLine

structure LogField where
  name : List Char
  hasValue : Bool
deriving DecidableEq, Repr

namespace LogField

def behindDigits? (text : List Char) : Option (List Char) :=
  if text.head?.any Char.isDigit then some (text.dropWhile Char.isDigit) else none

/-- What follows the digits of a decimal number, before and behind its point; one of both may have
none. -/
def behindNumber? (text : List Char) : Option (List Char) :=
  match behindDigits? text, text with
  | some ('.' :: rest), _ => some ((behindDigits? rest).getD rest)
  | some rest, _ => some rest
  | none, '.' :: rest => behindDigits? rest
  | none, _ => none

/-- Whether the text is a decimal number without a sign, perhaps with an exponent, or a name for
what is no finite number. -/
def isUnsigned (text : List Char) : Bool :=
  ["inf", "infinity", "nan"].contains (String.ofList (text.map Char.toLower)) ||
    match behindNumber? text with
    | some [] => true
    | some (mark :: exponent) =>
      let digits := if ['+', '-'].contains (exponent.headD ' ') then exponent.drop 1 else exponent
      mark.toLower = 'e' && behindDigits? digits = some []
    | none => false

/-- Whether a shape asks for the border of a word by the rules for all scripts. -/
def asksForWords : Shape → Bool
  | .look (.word _ .unicode) => true
  | .repeated _ _ _ body => asksForWords body
  | .captured body => asksForWords body
  | .inOrder first rest => asksForWords first || asksForWords rest
  | .either first rest => asksForWords first || asksForWords rest
  | _ => false

/-- Whether a field can be asked for by the text as its value: it is a number, or an expression that
does not ask for the borders of words. -/
def isValue (text : List Char) : Bool :=
  (text.head? = some '+' && isUnsigned (text.drop 1)) ||
    match Expr.read text with
    | .ok expr => !asksForWords (Shape.ofExpr expr)
    | .error _ => false

/-- The field that a text spells: a name, perhaps with a value between equals signs. -/
def ofText? (text : List Char) : Option LogField :=
  let name := text.takeWhile (· ≠ '=')
  match text.dropWhile (· ≠ '=') with
  | [] => if name.isEmpty then none else some ⟨name, false⟩
  | _ :: rest => if isValue (rest.takeWhile (· ≠ '=')) then some ⟨name, true⟩ else none

end LogField

/-- A rule of a filter, with the field that records must have. -/
structure LogRule where
  /-- How the names of the parts of the program start that the rule is for. -/
  target : List Char
  /-- The phase of the work that it is for. -/
  phase : Option (List Char)
  field : Option LogField
  level : LogLevel
deriving DecidableEq, Repr

namespace LogRule

def everything : LogRule := ⟨[], none, none, .upTo .trace⟩

def upTo (level : Event.Level) : LogRule := { everything with level := .upTo level }

/-- What is being read of a rule, with what has been read of it. -/
inductive Stage
  | start
  | levelOrTarget (text : List Char)
  | phase (text : List Char)
  | field (text : List Char)
  | behindField
  | behindBrackets
  | level (text : List Char)
deriving DecidableEq, Repr

/-- Whether a level or the start of names may start with the character. -/
def isStart (char : Char) : Bool :=
  char = '-' || char = ':' || char = '_' || Unicode.isAlphanumeric char

/-- Reads a character, which decides how reading goes on; `written` is what it adds to a text that
is being read. -/
def step (char written : Char) (rule : LogRule) : Stage → Option (LogRule × Stage)
  | .start =>
    if char = '[' then some (rule, .phase [])
    else if isStart char then some (rule, .levelOrTarget [written])
    else none
  | .levelOrTarget text =>
    if char = '=' then some ({ rule with target := text }, .level [])
    else if char = '[' then some ({ rule with target := text }, .phase [])
    else some (rule, .levelOrTarget (text ++ [written]))
  | .phase text =>
    if char = ']' then some ({ rule with phase := some text }, .behindBrackets)
    else if char = '\x7b' then
      some ({ rule with phase := if text.isEmpty then none else some text }, .field [])
    else some (rule, .phase (text ++ [written]))
  | .field text =>
    if char = '\x7d' then
      (LogField.ofText? text).map fun field => ({ rule with field := some field }, .behindField)
    else some (rule, .field (text ++ [written]))
  | .behindField => if char = ']' then some (rule, .behindBrackets) else none
  | .behindBrackets => if char = '=' then some (rule, .level []) else none
  | .level text => some (rule, .level (text ++ [written]))

/-- The rule when everything has been read; `rest` belongs to the last text. -/
def finish (rest : List Char) (rule : LogRule) : Stage → Option LogRule
  | .levelOrTarget text =>
    match LogLevel.ofText? (text ++ rest) with
    | some level => some { rule with level }
    | none => some { rule with target := text ++ rest }
  | .level text =>
    if (text ++ rest).isEmpty then some rule
    else (LogLevel.ofText? (text ++ rest)).map fun level => { rule with level }
  | .behindBrackets => some rule
  | _ => none

def trim (text : List Char) : List Char :=
  ((text.dropWhile Unicode.isWhiteSpace).reverse.dropWhile Unicode.isWhiteSpace).reverse

/-- The rule that a text spells. The characters without the white space around them decide where
its parts are, but the parts are cut out of the whole text, from its start on: with a blank before
them all parts lie one character further to the left. -/
def ofText? (text : List Char) : Option LogRule := do
  let trimmed := trim text
  let (rule, stage) ← (trimmed.zip text).foldlM
    (fun (rule, stage) (char, written) => step char written rule stage) (everything, .start)
  finish (text.drop trimmed.length) rule stage

/-- Whether the rule is for records: rules for a phase or for the value of a field are not. -/
def isForRecords (rule : LogRule) : Bool := rule.phase.isNone && rule.field.all (!·.hasValue)

def isFor (record : LogRecord) (rule : LogRule) : Bool :=
  rule.isForRecords && rule.target.isPrefixOf record.target.toList &&
    rule.field.all fun field => record.fieldNames.contains (String.ofList field.name)

/-- The name of the field that the rule asks for; it is empty if there is none. -/
def fieldName (rule : LogRule) : List Char := (rule.field.map LogField.name).getD []

/-- Whether a rule that is for the same record as an earlier one goes before it: its target is
longer, or its field comes later in the alphabet, or both are the same. -/
def goesBefore (rule earlier : LogRule) : Bool :=
  earlier.target.length < rule.target.length ||
    earlier.target.length = rule.target.length && !(rule.fieldName < earlier.fieldName)

end LogRule

end TextTemplate.CommandLine
