/-!
# Events

A pattern reports while it works that it has been compiled, and that a validator has turned a match
into none. Each event has a level, and a message that says what has happened. -/

namespace TextTemplate

/-- How much attention an event asks for. -/
inductive Event.Level
  | error
  | warn
  | info
  | debug
  | trace
deriving DecidableEq, Repr

namespace Event.Level

def all : List Event.Level := [error, warn, info, debug, trace]

/-- The position of a level among all levels, counted from one. -/
def rank : Event.Level → Nat
  | error => 1
  | warn => 2
  | info => 3
  | debug => 4
  | trace => 5

def name : Event.Level → String
  | error => "ERROR"
  | warn => "WARN"
  | info => "INFO"
  | debug => "DEBUG"
  | trace => "TRACE"

end Event.Level

/-- A placeholder's captured value that its validator has rejected. -/
structure Rejection where
  name : String
  value : String
deriving DecidableEq, Repr

inductive Event
  | compiled (template source : String) (validators : Nat)
  | rejected (rejection : Rejection)
deriving DecidableEq, Repr

namespace Event

/-- Compiling is a step of the work, and a rejection is a detail of a match. -/
def level : Event → Level
  | compiled .. => .debug
  | rejected _ => .trace

def message : Event → String
  | compiled .. => "compiled pattern"
  | rejected _ => "validator rejected capture"

end Event

end TextTemplate
