import TextTemplate.Unicode.Property

/-!
# Reading an expression's text

A cursor is a place in the text of an expression together with what follows it. In extended text,
white space and comments from a number sign to the end of the line do not count and are skipped
between signs. -/

namespace TextTemplate

/-- A stretch of an expression's text, by the number of characters before its start and before its
end. -/
structure Span where
  start : Nat
  stop : Nat
deriving DecidableEq, Repr, Inhabited

/-- A place in an expression's text: the number of characters before it, and the characters behind
it. -/
structure Cursor where
  offset : Nat
  rest : List Char
deriving DecidableEq, Repr

/-- The number of characters at the start of `text` that are white space or belong to comments. -/
def blankLength : (inComment : Bool) → (text : List Char) → Nat
  | _, [] => 0
  | true, char :: rest => blankLength (char ≠ '\n') rest + 1
  | false, char :: rest =>
    if Unicode.isWhiteSpace char then blankLength false rest + 1
    else if char = '#' then blankLength true rest + 1
    else 0

namespace Cursor

/-- The empty stretch at the cursor. -/
def here (cursor : Cursor) : Span := ⟨cursor.offset, cursor.offset⟩

/-- The stretch of the character after the cursor. -/
def sign (cursor : Cursor) : Span := ⟨cursor.offset, cursor.offset + 1⟩

def since (cursor : Cursor) (start : Nat) : Span := ⟨start, cursor.offset⟩

def peek? (cursor : Cursor) : Option Char := cursor.rest.head?

/-- The cursor `count` characters behind the start of a text, or at its end, when `offset`
characters come before that text. -/
def dropFrom : (count offset : Nat) → List Char → Cursor
  | 0, offset, text => ⟨offset, text⟩
  | _ + 1, offset, [] => ⟨offset, []⟩
  | count + 1, offset, _ :: rest => dropFrom count (offset + 1) rest

/-- The cursor `count` characters further on, or at the end. -/
def drop (cursor : Cursor) (count : Nat) : Cursor := dropFrom count cursor.offset cursor.rest

def next (cursor : Cursor) : Cursor := cursor.drop 1

/-- The cursor after white space and comments, if the text is extended. -/
def skip (extended : Bool) (cursor : Cursor) : Cursor :=
  if extended then cursor.drop (blankLength false cursor.rest) else cursor

/-- The cursor after the next character and what is to be skipped behind it. -/
def advance (extended : Bool) (cursor : Cursor) : Cursor := cursor.next.skip extended

/-- The characters of a text that `keep` accepts, up to the first one that it does not, with the
cursor behind them; between two of them may stand what is to be skipped. The next `skipped`
characters do not count. -/
def takeFrom (extended : Bool) (keep : Char → Bool) :
    (skipped offset : Nat) → List Char → List Char × Cursor
  | _, offset, [] => ([], ⟨offset, []⟩)
  | skipped + 1, offset, _ :: rest => takeFrom extended keep skipped (offset + 1) rest
  | 0, offset, char :: rest =>
    if keep char then
      let blank := if extended then blankLength false rest else 0
      let (more, after) := takeFrom extended keep blank (offset + 1) rest
      (char :: more, after)
    else ([], ⟨offset, char :: rest⟩)

/-- The characters from the cursor on that `keep` accepts, with the cursor behind them; between two
of them may stand what is to be skipped. -/
def takeWhile (extended : Bool) (keep : Char → Bool) (cursor : Cursor) : List Char × Cursor :=
  takeFrom extended keep 0 cursor.offset cursor.rest

/-- In extended text, the first character of `text` that is no white space; one number sign is
passed over, and if nothing else is there, the first character counts. -/
def firstSignificant (text : List Char) : Option Char :=
  match text.filter fun char => !Unicode.isWhiteSpace char with
  | [] => text.head?
  | '#' :: [] => text.head?
  | '#' :: char :: _ => some char
  | char :: _ => some char

/-- The character behind the next one, with white space passed over if the text is extended. -/
def peekBehind? (extended : Bool) (cursor : Cursor) : Option Char :=
  if extended then firstSignificant (cursor.rest.drop 1) else (cursor.rest.drop 1).head?

end Cursor

end TextTemplate
