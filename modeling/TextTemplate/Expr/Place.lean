import TextTemplate.Expr.Basic

/-!
# Places in a text

A place lies between two characters of a text; place zero is the start. This module decides which
assertions hold at a place. -/

namespace TextTemplate

def WordRule.mem (rule : WordRule) (char : Char) : Bool :=
  match rule with
  | .unicode => Unicode.isWordChar char
  | .ascii => char.isAlphanum || char = '_'

def before? (text : Array Char) (place : Nat) : Option Char :=
  match place with
  | 0 => none
  | index + 1 => text[index]?

def after? (text : Array Char) (place : Nat) : Option Char := text[place]?

/-- Whether a border of the given kind lies between two places that do or do not belong to words. -/
def WordBorder.holds (border : WordBorder) (wordBefore wordAfter : Bool) : Bool :=
  match border with
  | .either => wordBefore != wordAfter
  | .inside => wordBefore == wordAfter
  | .start => !wordBefore && wordAfter
  | .stop => wordBefore && !wordAfter
  | .noneBefore => !wordBefore
  | .noneAfter => !wordAfter

namespace Assertion

/-- Whether the assertion holds at a place of a text. Where carriage returns end lines, a carriage
return and the line feed right after it end one line together. -/
def holds (text : Array Char) (place : Nat) : Assertion → Bool
  | textStart => place == 0
  | textEnd => place == text.size
  | lineStart false => place == 0 || before? text place == some '\n'
  | lineEnd false => place == text.size || after? text place == some '\n'
  | lineStart true =>
    place == 0 || before? text place == some '\n' ||
      (before? text place == some '\r' && after? text place != some '\n')
  | lineEnd true =>
    place == text.size || after? text place == some '\r' ||
      (after? text place == some '\n' && before? text place != some '\r')
  | word border rule =>
    border.holds ((before? text place).any rule.mem) ((after? text place).any rule.mem)

end Assertion

end TextTemplate
