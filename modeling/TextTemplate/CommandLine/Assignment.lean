/-!
# Assignments

An assignment gives a value to a name, written with an equals sign between them. -/

namespace TextTemplate.CommandLine

structure Assignment where
  name : String
  value : String
deriving DecidableEq, Repr

/-- Why a text is no assignment: it has no equals sign, or nothing comes before its first one. -/
inductive AssignmentError
  | noEqualsSign (text : String)
  | emptyName (text : String)
deriving DecidableEq, Repr

def AssignmentError.message : AssignmentError → String
  | noEqualsSign text => s!"expected NAME=VALUE, got '{text}'"
  | emptyName text => s!"placeholder name must not be empty in '{text}'"

namespace Assignment

/-- Splits a text at its first equals sign. -/
def splitAtEquals? (text : List Char) : Option (List Char × List Char) :=
  match text.dropWhile (· ≠ '=') with
  | [] => none
  | _ :: value => some (text.takeWhile (· ≠ '='), value)

/-- The assignment that a text spells. The first equals sign counts, so that the value may hold
others. -/
def ofText (text : String) : Except AssignmentError Assignment :=
  match splitAtEquals? text.toList with
  | none => .error (.noEqualsSign text)
  | some ([], _) => .error (.emptyName text)
  | some (name, value) => .ok ⟨String.ofList name, String.ofList value⟩

def toText (assignment : Assignment) : String := assignment.name ++ "=" ++ assignment.value

end Assignment

end TextTemplate.CommandLine
