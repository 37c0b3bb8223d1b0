import TextTemplate.Unicode.FoldData
import TextTemplate.Unicode.RangeTable

/-!
# Simple case folding

Two characters are equal up to case when simple case folding sends them to the same character. The
orbit of a character holds the characters that are equal to it up to case, other than itself. -/

namespace TextTemplate.Unicode

/-- The single foldings that a run written as first/count/step/image stands for. -/
def foldsOfRun (run : List Char) : List (Nat × Nat) :=
  match (Text.cut '/' run).map Text.decimal with
  | [first, count, step, image] =>
    (List.range count).map fun index => (first + index * step, image + index * step)
  | _ => []

/-- All foldings that change the character, as pairs of code points sorted by the first one. -/
def folds : Array (Nat × Nat) := ((RangeTable.words foldRuns).flatMap foldsOfRun).toArray

/-- All foldings backwards, as pairs of a folded code point and one that is folded to it, sorted by
the first one. Those of a run are sorted already. -/
def unfolds : Array (Nat × Nat) :=
  ((RangeTable.words foldRuns).foldl
    (fun found run => Intervals.merge found ((foldsOfRun run).map Prod.swap)) []).toArray

/-- The code points that differ by case from another one, in ascending order. -/
def casedCodes : List Nat :=
  let pairs := Intervals.merge (folds.toList.map fun pair => (pair.1, pair.1))
    (unfolds.toList.map fun pair => (pair.1, pair.1))
  (pairs.map Prod.fst).eraseReps

/-- The position of the first pair whose first part is at least `code`, found by bisection between
`low` and `high`. -/
def lowerBound (pairs : Array (Nat × Nat)) (code : Nat) : (steps low high : Nat) → Nat
  | 0, low, _ => low
  | steps + 1, low, high =>
    if low < high then
      match pairs[(low + high) / 2]? with
      | none => low
      | some (first, _) =>
        if first < code then lowerBound pairs code steps ((low + high) / 2 + 1) high
        else lowerBound pairs code steps low ((low + high) / 2)
    else low

/-- The second parts of the pairs from position `start` on whose first part is `code`; at most
`count`. -/
def imagesFrom (pairs : Array (Nat × Nat)) (code : Nat) : (count start : Nat) → List Nat
  | 0, _ => []
  | count + 1, start =>
    match pairs[start]? with
    | some (first, image) =>
      if first = code then image :: imagesFrom pairs code count (start + 1) else []
    | none => []

/-- The second parts of all pairs whose first part is `code`, in an array sorted by first parts. No
code point has more than eight. -/
def images (pairs : Array (Nat × Nat)) (code : Nat) : List Nat :=
  imagesFrom pairs code 8 (lowerBound pairs code (pairs.size + 1) 0 pairs.size)

/-- The code point that simple case folding sends `code` to. -/
def simpleFold (code : Nat) : Nat := (images folds code).headD code

/-- The characters equal to `char` up to case, without `char` itself. -/
def orbit (char : Char) : List Char :=
  let folded := simpleFold char.toNat
  ((folded :: images unfolds folded).filter (· ≠ char.toNat)).map Char.ofNat

end TextTemplate.Unicode
