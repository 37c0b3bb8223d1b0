/-!
# Lists of intervals

A set of code points is worked with as the ascending list of its intervals. The intervals of a list
neither overlap nor touch, so that equal sets have equal lists. Code points from 0xD800 up to
0xDFFF are surrogates, which are no characters: no interval of characters starts or stops with
one. -/

namespace TextTemplate.Unicode.Intervals

def lastCode : Nat := 0x10FFFF

/-- The last character before the surrogates. -/
def beforeSurrogates : Nat := 0xD7FF

/-- The first character behind the surrogates. -/
def afterSurrogates : Nat := 0xE000

def isSurrogate (code : Nat) : Bool := beforeSurrogates < code && code < afterSurrogates

/-- Puts an interval, followed by what `rest` makes of the others, into a list that is ascending by
the starts of the intervals. -/
def weave (interval : Nat × Nat) (rest : List (Nat × Nat) → List (Nat × Nat)) :
    List (Nat × Nat) → List (Nat × Nat)
  | [] => interval :: rest []
  | other :: others =>
    if interval.1 ≤ other.1 then interval :: rest (other :: others)
    else other :: weave interval rest others

/-- The intervals of both lists, ascending by their starts. -/
def merge : List (Nat × Nat) → List (Nat × Nat) → List (Nat × Nat)
  | [], others => others
  | interval :: intervals, others => weave interval (merge intervals) others

/-- Joins the interval from `first` to `last` with those behind it that overlap or touch it, and
these with each other. -/
def joinFrom (first last : Nat) : List (Nat × Nat) → List (Nat × Nat)
  | [] => [(first, last)]
  | (start, stop) :: others =>
    if start ≤ last + 1 then joinFrom first (max last stop) others
    else (first, last) :: joinFrom start stop others

/-- Joins the intervals that overlap or touch, in a list that is ascending by their starts. -/
def join : List (Nat × Nat) → List (Nat × Nat)
  | [] => []
  | (first, last) :: others => joinFrom first last others

def union (left right : List (Nat × Nat)) : List (Nat × Nat) := join (merge left right)

/-- The code points from `next` on that lie in none of the intervals. -/
def complFrom (next : Nat) : List (Nat × Nat) → List (Nat × Nat)
  | [] => if next ≤ lastCode then [(next, lastCode)] else []
  | (first, last) :: others =>
    if next < first then (next, first - 1) :: complFrom (last + 1) others
    else complFrom (last + 1) others

def compl (intervals : List (Nat × Nat)) : List (Nat × Nat) := complFrom 0 intervals

def inter (left right : List (Nat × Nat)) : List (Nat × Nat) :=
  compl (union (compl left) (compl right))

def diff (left right : List (Nat × Nat)) : List (Nat × Nat) := inter left (compl right)

/-- The intervals of characters: surrogates at the ends of an interval are cut off, and intervals of
surrogates are left out. -/
def characters (intervals : List (Nat × Nat)) : List (Nat × Nat) :=
  intervals.filterMap fun (first, last) =>
    let start := if isSurrogate first then afterSurrogates else first
    let stop := if isSurrogate last then beforeSurrogates else last
    if start ≤ stop then some (start, stop) else none

end TextTemplate.Unicode.Intervals
