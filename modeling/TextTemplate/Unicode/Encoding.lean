import TextTemplate.Unicode.Intervals

/-!
# Encodings by ranges of bytes

A character is encoded by one to four bytes. The encodings of an interval of characters are written
as sequences of byte ranges: each sequence stands for all encodings whose bytes lie in its ranges,
one after the other, and together they stand for the encodings of the interval, in ascending
order. -/

namespace TextTemplate.Unicode

/-- The bytes from `first` to `last`, both included. -/
structure ByteRange where
  first : Nat
  last : Nat
deriving DecidableEq, Repr

namespace Encoding

/-- The last code points that are encoded by one, two and three bytes. -/
def lengthLimits : List Nat := [0x7F, 0x7FF, 0xFFFF]

/-- The bytes that encode a code point. -/
def bytes (code : Nat) : List Nat :=
  if code ≤ 0x7F then [code]
  else if code ≤ 0x7FF then [0xC0 + code / 0x40, 0x80 + code % 0x40]
  else if code ≤ 0xFFFF then
    [0xE0 + code / 0x1000, 0x80 + code / 0x40 % 0x40, 0x80 + code % 0x40]
  else
    [0xF0 + code / 0x40000, 0x80 + code / 0x1000 % 0x40, 0x80 + code / 0x40 % 0x40,
      0x80 + code % 0x40]

/-- Where an interval has to be cut so that the code points with the same bits above the lowest
`bits` ones stay together, unless its parts are whole blocks of such code points. -/
def blockCut? (first last bits : Nat) : Option Nat :=
  let block := Nat.pow 2 bits
  if first / block = last / block then none
  else if first % block ≠ 0 then some (first / block * block + block - 1)
  else if last % block ≠ block - 1 then some (last / block * block - 1)
  else none

/-- The last code point of the first part of an interval that no single sequence can stand for. -/
def cut? (first last : Nat) : Option Nat :=
  (lengthLimits.find? fun limit => first ≤ limit && limit < last) <|>
    if last ≤ 0x7F then none
    else blockCut? first last 6 <|> blockCut? first last 12 <|> blockCut? first last 18

/-- The sequences for an interval without surrogates, which are found with at most `cuts` cuts one
inside the other. -/
def sequencesFrom : (cuts first last : Nat) → List (List ByteRange)
  | 0, _, _ => []
  | cuts + 1, first, last =>
    match cut? first last with
    | some stop => sequencesFrom cuts first stop ++ sequencesFrom cuts (stop + 1) last
    | none => [List.zipWith ByteRange.mk (bytes first) (bytes last)]

/-- The sequences for an interval of characters. -/
def sequences (interval : Nat × Nat) : List (List ByteRange) :=
  let (first, last) := interval
  if first < Intervals.afterSurrogates && Intervals.beforeSurrogates < last then
    sequencesFrom 16 first Intervals.beforeSurrogates ++
      sequencesFrom 16 Intervals.afterSurrogates last
  else sequencesFrom 16 first last

end Encoding

end TextTemplate.Unicode
