import TextTemplate.Pattern.Event
import TextTemplate.Text.Parts
import TextTemplate.Text.Quoted

/-!
# Logging

What the program reports while it works is written as lines of a log, each at some level. -/

namespace TextTemplate.CommandLine

/-- Up to which level the log is written. -/
inductive LogLevel
  | off
  | upTo (level : Event.Level)
deriving DecidableEq, Repr

namespace LogLevel

/-- How many levels are written. -/
def rank : LogLevel → Nat
  | off => 0
  | upTo level => level.rank

def names : List (String × LogLevel) :=
  ("OFF", off) :: Event.Level.all.map fun level => (level.name, upTo level)

/-- The number that decimal digits spell, perhaps behind a plus sign. -/
def number? (text : List Char) : Option Nat :=
  let digits := if text.head? = some '+' then text.drop 1 else text
  if digits.isEmpty || !digits.all Char.isDigit then none
  else some (Text.decimal digits)

/-- The level with a name, in upper or lower case, or with a rank. -/
def ofText? (text : List Char) : Option LogLevel :=
  match number? text with
  | some number => (names.find? fun named => named.2.rank = number).map Prod.snd
  | none => names.lookup (String.ofList (text.map Char.toUpper))

end LogLevel

/-- A record of the log, with its fields and the texts of their values. -/
structure LogRecord where
  level : Event.Level
  /-- The part of the program that it comes from. -/
  target : String
  message : String
  fields : List (String × String)
deriving DecidableEq, Repr

namespace LogRecord

/-- The part of the program that works on the command line. -/
def programTarget : String := "longview"

/-- The part of the program that works on patterns. -/
def patternTarget : String := "longview_match::matcher"

/-- The record of how many subjects are to be matched. -/
def subjects (count : Nat) : LogRecord :=
  ⟨.debug, programTarget, "matching subjects", [("subjects", toString count)]⟩

def quoted (text : String) : String := String.ofList (Text.Quoted.encode text.toList)

def eventFields : Event → List (String × String)
  | .compiled template source validators =>
    [("template", template), ("regex", source), ("validators", toString validators)]
  | .rejected rejection =>
    [("placeholder", quoted rejection.name), ("value", quoted rejection.value)]

def ofEvent (event : Event) : LogRecord :=
  ⟨event.level, patternTarget, event.message, eventFields event⟩

/-- The names of all fields, of which the message is one. -/
def fieldNames (record : LogRecord) : List String := "message" :: record.fields.map Prod.fst

/-- The line for a record, with the level in five columns. The time comes before it. -/
def line (record : LogRecord) : String :=
  let padding := String.ofList (List.replicate (5 - record.level.name.length) ' ')
  let fields := record.fields.map fun (name, value) => s!" {name}={value}"
  s!" {padding}{record.level.name} {record.message}{String.join fields}\n"

end LogRecord

end TextTemplate.CommandLine
