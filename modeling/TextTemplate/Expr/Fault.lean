import TextTemplate.Expr.Cursor

/-!
# Faults in an expression's text

A text that is no expression has a first fault: a cause, and the stretch of the text that it
concerns. -/

namespace TextTemplate

/-- What is wrong with an expression's text. Where something is there twice, `first` is the place of
the first one. -/
inductive Cause
  | backReference
  | borderUnclosed
  | borderUnknown
  | borderCut
  | assertionInBrackets
  | rangeOrder
  | rangeEnd
  | bracketUnclosed
  | countEmpty
  | countTooLarge
  | countOrder
  | countUnclosed
  | escapeCut
  | escapeUnknown
  | flagHyphenLast
  | flagHyphenTwice (first : Span)
  | flagTwice (first : Span)
  | flagCut
  | flagUnknown
  | groupUnclosed
  | groupUnopened
  | hexDigit
  | hexEmpty
  | hexRange
  | brokenText
  | lookAround
  | nameTwice (first : Span)
  | nameEmpty
  | nameChar
  | nameCut
  | nesting
  | property (fault : Unicode.PropertyFault)
  | propertyBackslash
  | repetitionMissing
  | beyondAscii
deriving DecidableEq, Repr

/-- The greatest number of levels of parts inside parts. -/
def nestingLimit : Nat := 250

namespace Cause

def message : Cause → String
  | backReference => "backreferences are not supported"
  | borderUnclosed =>
    "special word boundary assertion is either unclosed or contains an invalid character"
  | borderUnknown =>
    "unrecognized special word boundary assertion, valid choices are: start, end, start-half or "
      ++ "end-half"
  | borderCut =>
    "found either the beginning of a special word boundary or a bounded repetition on a \\b with "
      ++ "an opening brace, but no closing brace"
  | assertionInBrackets => "invalid escape sequence found in character class"
  | rangeOrder => "invalid character class range, the start must be <= the end"
  | rangeEnd => "invalid range boundary, must be a literal"
  | bracketUnclosed => "unclosed character class"
  | countEmpty => "repetition quantifier expects a valid decimal"
  | countTooLarge => "decimal literal invalid"
  | countOrder => "invalid repetition count range, the start must be <= the end"
  | countUnclosed => "unclosed counted repetition"
  | escapeCut => "incomplete escape sequence, reached end of pattern prematurely"
  | escapeUnknown => "unrecognized escape sequence"
  | flagHyphenLast => "dangling flag negation operator"
  | flagHyphenTwice _ => "flag negation operator repeated"
  | flagTwice _ => "duplicate flag"
  | flagCut => "expected flag but got end of regex"
  | flagUnknown => "unrecognized flag"
  | groupUnclosed => "unclosed group"
  | groupUnopened => "unopened group"
  | hexDigit => "invalid hexadecimal digit"
  | hexEmpty => "hexadecimal literal empty"
  | hexRange => "hexadecimal literal is not a Unicode scalar value"
  | brokenText => "pattern can match invalid UTF-8"
  | lookAround => "look-around, including look-ahead and look-behind, is not supported"
  | nameTwice _ => "duplicate capture group name"
  | nameEmpty => "empty capture group name"
  | nameChar => "invalid capture group character"
  | nameCut => "unclosed capture group name"
  | nesting => s!"exceed the maximum number of nested parentheses/brackets ({nestingLimit})"
  | property .unknownProperty => "Unicode property not found"
  | property .unknownValue => "Unicode property value not found"
  | propertyBackslash => "invalid Unicode character class"
  | repetitionMissing => "repetition operator missing expression"
  | beyondAscii => "Unicode not allowed here"

/-- The stretch that the fault clashes with, for a cause that lies in two places. -/
def earlier? : Cause → Option Span
  | flagHyphenTwice first => some first
  | flagTwice first => some first
  | nameTwice first => some first
  | _ => none

end Cause

/-- A fault: its cause and the stretch of text that it concerns. -/
structure Fault where
  cause : Cause
  span : Span
deriving DecidableEq, Repr

/-- The stretches that a report of the fault marks. -/
def Fault.marks (fault : Fault) : List Span :=
  match fault.cause.earlier? with
  | none => [fault.span]
  | some first => [first, fault.span]

end TextTemplate
