import TextTemplate.Expr.Fault

/-!
# Repetition counts

A repetition is written as a star, a plus, a question mark or as counts in braces, each with a
question mark behind it if few repetitions are preferred. -/

namespace TextTemplate

/-- How often something is repeated: the smallest number of times, and the largest one if there is a
limit. -/
structure Count where
  least : Nat
  most : Option Nat
deriving DecidableEq, Repr

namespace Count

/-- How many times more than the smallest number it may be, if there is a limit. -/
def more (count : Count) : Option Nat := count.most.map (· - count.least)

/-- The largest number that a count can give. -/
def limit : Nat := 4294967295

/-- Reads a decimal number with white space around it. -/
def readNumber (extended : Bool) (cursor : Cursor) : Except Fault Nat × Cursor :=
  let begin := (cursor.takeWhile false Unicode.isWhiteSpace).2
  let (digits, afterDigits) := begin.takeWhile extended Char.isDigit
  let after := (afterDigits.takeWhile extended Unicode.isWhiteSpace).2
  let span := afterDigits.since begin.offset
  if digits.isEmpty then (.error ⟨.countEmpty, span⟩, after)
  else
    let number := Text.decimal digits
    (if number ≤ limit then .ok number else .error ⟨.countTooLarge, span⟩, after)

/-- Reads the question mark that makes a repetition lazy, if it is there. -/
def readLazy (cursor : Cursor) : Bool × Cursor :=
  if cursor.peek? = some '?' then (true, cursor.next) else (false, cursor)

/-- Reads the numbers between the braces, the first of which is at the place `start`. -/
def readBounds (extended : Bool) (start : Nat) (inside : Cursor) :
    Except Fault (Count × Cursor) := do
  let (least, afterLeast) := readNumber extended inside
  if afterLeast.rest.isEmpty then throw ⟨.countUnclosed, afterLeast.since start⟩
  if afterLeast.peek? ≠ some ',' then
    let least ← least
    return (⟨least, some least⟩, afterLeast)
  let behind := afterLeast.advance extended
  if behind.rest.isEmpty then throw ⟨.countUnclosed, behind.since start⟩
  let least ← least
  if behind.peek? = some '\x7d' then return (⟨least, none⟩, behind)
  let (most, afterMost) := readNumber extended behind
  let most ← most
  return (⟨least, some most⟩, afterMost)

/-- Reads counts in braces, from the opening brace on, with the sign for a lazy repetition. -/
def readBraces (extended : Bool) (cursor : Cursor) : Except Fault (Count × Bool × Cursor) := do
  let start := cursor.offset
  let inside := cursor.advance extended
  if inside.rest.isEmpty then throw ⟨.countUnclosed, inside.since start⟩
  let (count, close) ← readBounds extended start inside
  if close.peek? ≠ some '\x7d' then throw ⟨.countUnclosed, close.since start⟩
  let (lazy, after) := readLazy (close.advance extended)
  if count.most.any (· < count.least) then throw ⟨.countOrder, after.since start⟩
  return (count, lazy, after)

/-- Reads a star, a plus, a question mark or counts in braces, with the sign for a lazy
repetition. -/
def read (extended : Bool) (cursor : Cursor) : Except Fault (Count × Bool × Cursor) :=
  match cursor.peek? with
  | some '*' => .ok (⟨0, none⟩, readLazy cursor.next)
  | some '+' => .ok (⟨1, none⟩, readLazy cursor.next)
  | some '?' => .ok (⟨0, some 1⟩, readLazy cursor.next)
  | _ => readBraces extended cursor

end Count

end TextTemplate
