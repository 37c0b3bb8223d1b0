import TextTemplate.Text.Parts
import TextTemplate.Unicode.Intervals

/-!
# Tables of code points

A set of code points given by a standard is kept as the ascending list of its intervals, and a code
point is looked up by bisection. The data modules write such a table as text: a pair
distance+length per interval, where the distance is counted from the end of the interval before it
(from zero for the first one). -/

namespace TextTemplate.Unicode

/-- A set of code points, as its intervals, disjoint and in ascending order; both ends of an
interval belong to it. -/
structure RangeTable where
  intervals : Array (Nat × Nat)
deriving DecidableEq, Repr, Inhabited

namespace RangeTable

def empty : RangeTable := ⟨#[]⟩

def size (table : RangeTable) : Nat := table.intervals.size

/-- Whether `code` lies in one of the intervals from position `low` up to but excluding `high`; the
number of halvings is bounded by `steps`. -/
def search (intervals : Array (Nat × Nat)) (code : Nat) : (steps low high : Nat) → Bool
  | 0, _, _ => false
  | steps + 1, low, high =>
    if low < high then
      match intervals[(low + high) / 2]? with
      | none => false
      | some (first, last) =>
        if code < first then search intervals code steps low ((low + high) / 2)
        else if last < code then search intervals code steps ((low + high) / 2 + 1) high
        else true
    else false

def mem (table : RangeTable) (char : Char) : Bool :=
  search table.intervals char.toNat (table.size + 1) 0 table.size

def compl (table : RangeTable) : RangeTable := ⟨(Intervals.compl table.intervals.toList).toArray⟩

def union (left right : RangeTable) : RangeTable :=
  ⟨(Intervals.union left.intervals.toList right.intervals.toList).toArray⟩

def diff (left right : RangeTable) : RangeTable :=
  ⟨(Intervals.diff left.intervals.toList right.intervals.toList).toArray⟩

def unionAll (tables : List RangeTable) : RangeTable := tables.foldl union empty

/-- Adds an interval behind all others, joined to the last one when nothing lies between them. -/
def push (table : RangeTable) (first last : Nat) : RangeTable :=
  match table.intervals.back? with
  | some (start, stop) =>
    if stop + 1 = first then ⟨table.intervals.pop.push (start, last)⟩
    else ⟨table.intervals.push (first, last)⟩
  | none => ⟨#[(first, last)]⟩

def words (rows : List String) : List (List Char) := rows.flatMap fun row => Text.words row.toList

/-- The table that a text of distances and lengths describes. -/
def decode (rows : List String) : RangeTable :=
  let (table, _) := (words rows).foldl
    (fun (state : RangeTable × Nat) word =>
      match (Text.cut '+' word).map Text.decimal with
      | [distance, length] =>
        let first := state.2 + distance
        (state.1.push first (first + length - 1), first + length)
      | _ => state)
    (empty, 0)
  table

end RangeTable

end TextTemplate.Unicode
