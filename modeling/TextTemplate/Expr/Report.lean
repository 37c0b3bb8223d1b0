import TextTemplate.Expr.Fault
import TextTemplate.Text.Lines

/-!
# Reporting a fault

A report shows the text of the expression with marks under the stretches that a fault concerns, and
then the message. A text of several lines is shown between dividers with line numbers; a stretch
that runs over lines is described in words there. -/

namespace TextTemplate.Report

/-- A place in a text of several lines, counted from one. -/
structure Position where
  line : Nat
  column : Nat
deriving DecidableEq, Repr

/-- The position of the place before which there are `offset` characters. -/
def position (text : List Char) (offset : Nat) : Position :=
  (text.take offset).foldl
    (fun position char =>
      if char = '\n' then ⟨position.line + 1, 1⟩ else ⟨position.line, position.column + 1⟩)
    ⟨1, 1⟩

/-- A stretch as the positions of its two ends. -/
structure Stretch where
  start : Position
  stop : Position
deriving DecidableEq, Repr

def stretch (text : List Char) (span : Span) : Stretch :=
  ⟨position text span.start, position text span.stop⟩

def Stretch.isOneLine (stretch : Stretch) : Bool := stretch.start.line == stretch.stop.line

/-- The marks under the stretches of one line, from left to right: one sign for each character, and
at least one for each stretch. -/
def marks (stretches : List Stretch) : List Char :=
  stretches.foldl
    (fun row stretch =>
      row ++ List.replicate (stretch.start.column - 1 - row.length) ' '
        ++ List.replicate (max 1 (stretch.stop.column - stretch.start.column)) '^')
    []

/-- A line of the text behind its margin, with the line of marks under it if something is marked
there. -/
def showLine (margin : List Char) (stretches : List Stretch) (number : Nat) (line : List Char) :
    List Char :=
  let marked := stretches.filter fun stretch => stretch.isOneLine && stretch.start.line == number
  margin ++ line ++ ['\n'] ++
    (if marked.isEmpty then []
    else List.replicate margin.length ' ' ++ marks marked ++ ['\n'])

/-- The margin with the number of a line, as wide as that of the last line. -/
def numberMargin (last number : Nat) : List Char :=
  let digits := (toString number).toList
  List.replicate ((toString last).length - digits.length) ' ' ++ digits ++ [':', ' ']

/-- The description of a stretch that runs over lines. -/
def describe (stretch : Stretch) : String :=
  s!"on line {stretch.start.line} (column {stretch.start.column}) "
    ++ s!"through line {stretch.stop.line} (column {stretch.stop.column - 1})"

/-- The line between the parts of a report on several lines. -/
def divider : String := String.ofList (List.replicate 79 '~')

/-- The report of a fault in a text. -/
def fault (text : String) (fault : Fault) : String :=
  let chars := text.toList
  let stretches := fault.marks.map (stretch chars)
  let shown := Text.Lines.split '\n' '\r' chars
  let ending := "error: " ++ fault.cause.message
  if chars.contains '\n' then
    let count := shown.length + if chars.getLast? = some '\n' then 1 else 0
    let body := shown.zipIdx.flatMap fun (line, index) =>
      showLine (numberMargin count (index + 1)) stretches (index + 1) line
    let long := (stretches.filter fun stretch => !stretch.isOneLine).map describe
    "regex parse error:\n" ++ divider ++ "\n" ++ String.ofList body ++ divider ++ "\n"
      ++ (if long.isEmpty then "" else "\n".intercalate long ++ "\n") ++ ending
  else
    let body := shown.flatMap fun line => showLine (List.replicate 4 ' ') stretches 1 line
    "regex parse error:\n" ++ String.ofList body ++ ending

end TextTemplate.Report
