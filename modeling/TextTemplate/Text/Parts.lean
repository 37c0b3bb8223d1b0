/-!
# Parts of a text

A text is cut at a sign into the parts between its occurrences. The words of a text are what stands
between its blanks. -/

namespace TextTemplate.Text

variable {Sign : Type} [DecidableEq Sign]

/-- The parts between the signs equal to `mark`; there is one more of them than there are such
signs. -/
def cut (mark : Sign) : List Sign → List (List Sign)
  | [] => [[]]
  | sign :: rest =>
    if sign = mark then [] :: cut mark rest
    else
      match cut mark rest with
      | [] => [[sign]]
      | part :: parts => (sign :: part) :: parts

def words (text : List Char) : List (List Char) :=
  (cut ' ' text).filter fun part => !part.isEmpty

def decimal (digits : List Char) : Nat :=
  digits.foldl (fun number digit => 10 * number + (digit.toNat - '0'.toNat)) 0

end TextTemplate.Text
