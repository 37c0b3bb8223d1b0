/-!
# Templates

A template is a text in which some signs stand for variable parts: a name in braces is a
placeholder, a star stands for any characters and a plus for characters of a word. A backslash
directly before an opening brace, a star or a plus makes that sign stand for itself; what spells no
such sign is literal text. -/

namespace TextTemplate

/-- A part of a template: text that stands for itself, a name in braces, which stands for a text to
be extracted, a star for one or more characters of any kind, or a plus for one or more characters of
a word. -/
inductive Token
  | literal (text : String)
  | placeholder (name : String)
  | wildcard
  | word
deriving DecidableEq, Repr

namespace Token

def name? : Token → Option String
  | placeholder name => some name
  | _ => none

def isNameStart (char : Char) : Bool := char.isAlpha || char = '_'

def isNameChar (char : Char) : Bool := char.isAlphanum || char = '_'

/-- The signs that a backslash makes stand for themselves. -/
def isEscapable (char : Char) : Bool := char = '\x7b' || char = '*' || char = '+'

/-- The name of the placeholder that a text starts with: a letter or an underscore and at least one
more letter, digit or underscore, in braces. -/
def placeholderName? : List Char → Option (List Char)
  | '\x7b' :: rest =>
    match rest.takeWhile isNameChar with
    | first :: second :: more =>
      if isNameStart first && rest[more.length + 2]? == some '\x7d' then
        some (first :: second :: more)
      else none
    | _ => none
  | _ => none

/-- What is read at one place of a template: a character that stands for itself, or a token. -/
inductive Piece
  | char (char : Char)
  | token (token : Token)
deriving DecidableEq, Repr

/-- What the text `char :: rest` starts with, and the number of characters of `rest` that belong to
it. -/
def pieceAt (char : Char) (rest : List Char) : Piece × Nat :=
  match placeholderName? (char :: rest) with
  | some name => (.token (.placeholder (String.ofList name)), name.length + 1)
  | none =>
    if char = '*' then (.token .wildcard, 0)
    else if char = '+' then (.token .word, 0)
    else if char = '\\' then
      match rest with
      | next :: _ => if isEscapable next then (.char next, 1) else (.char char, 0)
      | [] => (.char char, 0)
    else (.char char, 0)

/-- The pieces of a text, of which the next `taken` characters belong to the piece before. -/
def pieces : (taken : Nat) → List Char → List Piece
  | _, [] => []
  | taken + 1, _ :: rest => pieces taken rest
  | 0, char :: rest =>
    let (piece, more) := pieceAt char rest
    piece :: pieces more rest

/-- The tokens behind some literal text, which becomes a token unless it is empty. -/
def behind (text : List Char) (tokens : List Token) : List Token :=
  if text.isEmpty then tokens else .literal (String.ofList text) :: tokens

/-- The characters of literal text that come first, and the tokens behind them. -/
def gather : List Piece → List Char × List Token
  | [] => ([], [])
  | .char char :: pieces =>
    let (text, tokens) := gather pieces
    (char :: text, tokens)
  | .token token :: pieces =>
    let (text, tokens) := gather pieces
    ([], token :: behind text tokens)

/-- The tokens that a text spells as a template. -/
def ofText (text : List Char) : List Token :=
  let (leading, tokens) := gather (pieces 0 text)
  behind leading tokens

end Token

def tokenize (template : String) : List Token := Token.ofText template.toList

/-- The names of the placeholders of a template, in order and with repetitions. -/
def placeholderNames (tokens : List Token) : List String := tokens.filterMap Token.name?

end TextTemplate
