import TextTemplate.Text.Parts

/-!
# Lines

A line ends with a line feed, and a carriage return directly before it belongs to the end of the
line. What follows the last line feed is a line too, unless it is empty. The definitions serve for
texts and for bytes alike: the two signs are parameters. -/

namespace TextTemplate.Text.Lines

variable {Sign : Type} [DecidableEq Sign]

/-- A line without a sign equal to `ret` at its end. -/
def withoutReturn (ret : Sign) (line : List Sign) : List Sign :=
  if line.getLast? = some ret then line.dropLast else line

/-- The lines made of the parts between the line feeds: all parts but the last are ended lines. -/
def ofParts (ret : Sign) : List (List Sign) → List (List Sign)
  | [] => []
  | [last] => if last.isEmpty then [] else [last]
  | line :: parts => withoutReturn ret line :: ofParts ret parts

theorem ofParts_cons {ret : Sign} {line : List Sign} {parts : List (List Sign)}
    (more : parts ≠ []) :
    ofParts ret (line :: parts) = withoutReturn ret line :: ofParts ret parts := by
  cases parts with
  | nil => contradiction
  | cons => rfl

/-- The lines of a text. -/
def split (feed ret : Sign) (text : List Sign) : List (List Sign) := ofParts ret (cut feed text)

end TextTemplate.Text.Lines
