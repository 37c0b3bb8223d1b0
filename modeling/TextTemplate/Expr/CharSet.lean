import TextTemplate.Unicode.Fold
import TextTemplate.Unicode.Property

/-!
# Sets of characters

A place in an expression where one character is read admits a set of characters. Sets are kept as
they were put together, so that what a class in brackets means can be read off its parts, and
CharSet.mem decides membership. -/

namespace TextTemplate

/-- Which characters count as equal up to case: those that simple case folding identifies, or only
the two cases of an ASCII letter. -/
inductive CaseRule
  | unicode
  | ascii
deriving DecidableEq, Repr

/-- The characters that differ from `char` by case only. -/
def CaseRule.variants (rule : CaseRule) (char : Char) : List Char :=
  match rule with
  | .unicode => Unicode.orbit char
  | .ascii => if char.isLower then [char.toUpper] else if char.isUpper then [char.toLower] else []

/-- A set of characters. Both ends of a range belong to it, and a folded set holds the characters
equal up to case to one of the set. -/
inductive CharSet
  | empty
  | range (first last : Char)
  | table (ranges : Unicode.RangeTable)
  | union (left right : CharSet)
  | inter (left right : CharSet)
  | diff (left right : CharSet)
  | symmDiff (left right : CharSet)
  | compl (set : CharSet)
  | folded (rule : CaseRule) (set : CharSet)
deriving DecidableEq, Repr

namespace CharSet

def mem (char : Char) : CharSet → Bool
  | empty => false
  | range first last => decide (first ≤ char) && decide (char ≤ last)
  | table ranges => ranges.mem char
  | union left right => left.mem char || right.mem char
  | inter left right => left.mem char && right.mem char
  | diff left right => left.mem char && !right.mem char
  | symmDiff left right => left.mem char != right.mem char
  | compl set => !set.mem char
  | folded rule set => set.mem char || (rule.variants char).any fun variant => set.mem variant

def single (char : Char) : CharSet := range char char

def all : CharSet := range '\x00' (Char.ofNat 0x10FFFF)

def lineFeed : CharSet := single '\n'

def lineEnds : CharSet := union lineFeed (single '\r')

def ofList : List CharSet → CharSet
  | [] => empty
  | [set] => set
  | set :: sets => union set (ofList sets)

/-- The intervals of the set. Those that case adds are looked for among the characters that have
cases. -/
def intervals : CharSet → List (Nat × Nat)
  | empty => []
  | range first last => if first ≤ last then [(first.toNat, last.toNat)] else []
  | table ranges => Unicode.Intervals.characters ranges.intervals.toList
  | union left right => Unicode.Intervals.union left.intervals right.intervals
  | inter left right =>
    Unicode.Intervals.characters (Unicode.Intervals.inter left.intervals right.intervals)
  | diff left right =>
    Unicode.Intervals.characters (Unicode.Intervals.diff left.intervals right.intervals)
  | symmDiff left right =>
    let both := Unicode.Intervals.inter left.intervals right.intervals
    let either := Unicode.Intervals.union left.intervals right.intervals
    Unicode.Intervals.characters (Unicode.Intervals.diff either both)
  | compl set => Unicode.Intervals.characters (Unicode.Intervals.compl set.intervals)
  | folded rule set =>
    let cased := Unicode.casedCodes.filter fun code => (folded rule set).mem (Char.ofNat code)
    Unicode.Intervals.union set.intervals (cased.map fun code => (code, code))

/-- Whether one interval of the set stops right before the surrogates and another one starts right
behind them. -/
def isCutAtSurrogates (set : CharSet) : Bool :=
  let before := Char.ofNat Unicode.Intervals.beforeSurrogates
  let after := Char.ofNat Unicode.Intervals.afterSurrogates
  set.mem before && set.mem after &&
    set.intervals.any fun interval => interval.2 == Unicode.Intervals.beforeSurrogates

/-- The negation of the set: for every two neighbouring intervals, what lies from the character
behind the one to the character before the other. Where the set is cut at the surrogates, these are
the two characters at the cut in reverse order, which both belong to the negation. -/
def negate (set : CharSet) : CharSet :=
  if set.isCutAtSurrogates then
    union (compl set)
      (range (Char.ofNat Unicode.Intervals.beforeSurrogates)
        (Char.ofNat Unicode.Intervals.afterSurrogates))
  else compl set

def asciiLetters : CharSet := union (range 'A' 'Z') (range 'a' 'z')

def asciiDigits : CharSet := range '0' '9'

def asciiWord : CharSet := union asciiDigits (union asciiLetters (single '_'))

def asciiSpace : CharSet := union (range '\t' '\r') (single ' ')

def word : CharSet := union (table Unicode.alphabetic) (table Unicode.wordExtras)

def digit : CharSet := table Unicode.decimalDigits

def space : CharSet := table Unicode.whiteSpace

/-- The ASCII classes that have a name inside brackets. -/
def named? : String → Option CharSet
  | "alnum" => some (union asciiDigits asciiLetters)
  | "alpha" => some asciiLetters
  | "ascii" => some (range '\x00' '\x7f')
  | "blank" => some (union (single '\t') (single ' '))
  | "cntrl" => some (union (range '\x00' '\x1f') (single '\x7f'))
  | "digit" => some asciiDigits
  | "graph" => some (range '!' '~')
  | "lower" => some (range 'a' 'z')
  | "print" => some (range ' ' '~')
  | "punct" => some (ofList [range '!' '/', range ':' '@', range '[' (Char.ofNat 0x60),
      range (Char.ofNat 0x7B) '~'])
  | "space" => some asciiSpace
  | "upper" => some (range 'A' 'Z')
  | "word" => some asciiWord
  | "xdigit" => some (union asciiDigits (union (range 'A' 'F') (range 'a' 'f')))
  | _ => none

end CharSet

end TextTemplate
