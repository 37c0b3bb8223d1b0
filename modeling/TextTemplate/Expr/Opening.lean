import TextTemplate.Expr.Fault
import TextTemplate.Expr.Flags
import TextTemplate.Unicode.Newer

/-!
# Openings of groups

An opening parenthesis starts a group, which may be named or carry flags of its own, or it starts a
note that sets flags for the rest of the enclosing group. -/

namespace TextTemplate

/-- What an opening parenthesis starts: a group that captures, under a name (with its place) if
there is one, a group that only holds things together, or flags for the rest of the enclosing group.
Flags are kept as written. -/
inductive Opening
  | capture (name : Option (String × Span))
  | plain (flags : List Char)
  | directive (flags : List Char)
deriving DecidableEq, Repr

namespace Opening

def isNameStart (char : Char) : Bool := char = '_' || Unicode.isAlphabetic char

def isNameChar (char : Char) : Bool :=
  char = '_' || char = '.' || char = '[' || char = ']' || Unicode.isAlphanumeric char

/-- Reads the name of a group up to and including the bracket behind it. -/
def readName (cursor : Cursor) : Except Fault (Opening × Cursor) := do
  if cursor.peek?.any fun char => char ≠ '>' && !isNameStart char then
    throw ⟨.nameChar, cursor.sign⟩
  let (name, after) := cursor.takeWhile false isNameChar
  match after.peek? with
  | none => throw ⟨.nameCut, after.here⟩
  | some '>' =>
    if name.isEmpty then throw ⟨.nameEmpty, cursor.here⟩
    return (.capture (some (String.ofList name, after.since cursor.offset)), after.next)
  | some _ => throw ⟨.nameChar, after.sign⟩

/-- The cause of a flag or hyphen that was written before, at `first`. -/
def repeated (char : Char) (first : Span) : Cause :=
  if char = '-' then .flagHyphenTwice first else .flagTwice first

/-- Reads flags up to a colon or a closing parenthesis, which is not taken. The flags read so far
are given with their places, the last one first. -/
def readFlags :
    (offset : Nat) → (seen : List (Char × Span)) → List Char → Except Fault (List Char × Cursor)
  | offset, _, [] => .error ⟨.flagCut, ⟨offset, offset⟩⟩
  | offset, seen, char :: rest =>
    let span : Span := ⟨offset, offset + 1⟩
    if char = ':' ∨ char = ')' then
      match seen with
      | ('-', hyphen) :: _ => .error ⟨.flagHyphenLast, hyphen⟩
      | _ => .ok ((seen.map Prod.fst).reverse, ⟨offset, char :: rest⟩)
    else if char ≠ '-' ∧ !Flags.letters.contains char then .error ⟨.flagUnknown, span⟩
    else
      match seen.lookup char with
      | some first => .error ⟨repeated char first, span⟩
      | none => readFlags (offset + 1) ((char, span) :: seen) rest

/-- Reads what follows an opening parenthesis and a question mark at the cursor: flags, and the sign
behind them. The parenthesis is at the given place. -/
def readFlagged (parenthesis : Span) (cursor : Cursor) : Except Fault (Opening × Cursor) := do
  let inside := cursor.next
  if inside.rest.isEmpty then throw ⟨.groupUnclosed, parenthesis⟩
  let (flags, close) ← readFlags inside.offset [] inside.rest
  if close.peek? = some ':' then return (.plain flags, close.next)
  if flags.isEmpty then throw ⟨.repetitionMissing, cursor.here⟩
  return (.directive flags, close.next)

def read (extended : Bool) (cursor : Cursor) : Except Fault (Opening × Cursor) :=
  let inside := cursor.advance extended
  let lookAround (length : Nat) : Except Fault (Opening × Cursor) :=
    .error ⟨.lookAround, (inside.drop length).since cursor.offset⟩
  match inside.rest with
  | '?' :: '=' :: _ => lookAround 2
  | '?' :: '!' :: _ => lookAround 2
  | '?' :: '<' :: '=' :: _ => lookAround 3
  | '?' :: '<' :: '!' :: _ => lookAround 3
  | '?' :: 'P' :: '<' :: _ => readName (inside.drop 3)
  | '?' :: '<' :: _ => readName (inside.drop 2)
  | '?' :: _ => readFlagged cursor.sign inside
  | _ => .ok (.capture none, inside)

end Opening

end TextTemplate
