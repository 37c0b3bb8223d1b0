import TextTemplate.Expr.Basic
import TextTemplate.Expr.Fault
import TextTemplate.Expr.Flags

/-!
# Single signs and escapes

An atom is the smallest piece of an expression's text: a character, a dot, an assertion, or an
escape for a character, a class or an assertion. What an atom means depends on the flags in force
and on whether it stands inside brackets. -/

namespace TextTemplate

/-- A class with an escape of its own. -/
inductive ShortClass
  | digit
  | space
  | word
deriving DecidableEq, Repr

/-- A property of characters as it is asked for, by one name or by a name and a value. -/
inductive Query
  | name (name : String)
  | value (name value : String)
deriving DecidableEq, Repr

/-- What an atom of an expression's text says. A character is `fixed` if it is written as two
hexadecimal digits behind an x. -/
inductive Sign
  | char (char : Char) (fixed : Bool)
  | dot
  | caret
  | dollar
  | textStart
  | textEnd
  | border (kind : WordBorder)
  | class (kind : ShortClass) (negated : Bool)
  | property (query : Query) (negated : Bool)
deriving DecidableEq, Repr

structure Atom where
  sign : Sign
  span : Span
deriving DecidableEq, Repr

namespace Atom

/-! ## Reading -/

/-- Whether a backslash before the character makes it stand for itself. -/
def isEscapable (char : Char) : Bool :=
  char.toNat < 0x80 && !char.isAlphanum && char ≠ '<' && char ≠ '>'

def hexValue (digit : Char) : Nat :=
  if digit.isDigit then digit.toNat - '0'.toNat
  else if digit.isLower then digit.toNat - 'a'.toNat + 10
  else digit.toNat - 'A'.toNat + 10

def isHexDigit (char : Char) : Bool :=
  char.isDigit || ('a' ≤ char && char ≤ 'f') || ('A' ≤ char && char ≤ 'F')

/-- The character with the number that some hexadecimal digits give. -/
def ofHex? (digits : List Char) : Option Char :=
  let number := digits.foldl (fun number digit => number * 16 + hexValue digit) 0
  if number.isValidChar then some (Char.ofNat number) else none

/-- Reads exactly `count` hexadecimal digits. -/
def readDigits (extended : Bool) : (count : Nat) → Cursor → Except Fault (List Char × Cursor)
  | 0, cursor => .ok ([], cursor)
  | count + 1, cursor =>
    match cursor.peek? with
    | none => .error ⟨.escapeCut, cursor.here⟩
    | some digit =>
      if isHexDigit digit then do
        let (more, after) ← readDigits extended count (cursor.advance extended)
        return (digit :: more, after)
      else .error ⟨.hexDigit, cursor.sign⟩

/-- Reads the hexadecimal number behind the letter x, u or U of an escape that starts at `start`:
two, four or eight digits, or any number of digits in braces. -/
def readHex (extended : Bool) (start : Nat) (letter : Char) (cursor : Cursor) :
    Except Fault (Atom × Cursor) :=
  let cursor := cursor.advance extended
  match cursor.peek? with
  | none => .error ⟨.escapeCut, cursor.here⟩
  | some '\x7b' =>
    let inside := cursor.advance extended
    let (digits, after) := inside.takeWhile extended isHexDigit
    match after.peek? with
    | none => .error ⟨.escapeCut, after.since cursor.offset⟩
    | some '\x7d' =>
      let behind := after.advance extended
      if digits.isEmpty then .error ⟨.hexEmpty, behind.since cursor.offset⟩
      else
        match ofHex? digits with
        | some char => .ok (⟨.char char false, behind.since start⟩, behind)
        | none => .error ⟨.hexRange, after.since (cursor.offset + 1)⟩
    | some _ => .error ⟨.hexDigit, after.sign⟩
  | some _ => do
    let count := if letter = 'x' then 2 else if letter = 'u' then 4 else 8
    let (digits, after) ← readDigits extended count cursor
    match ofHex? digits with
    | some char => .ok (⟨.char char (letter == 'x'), after.since start⟩, after)
    | none => .error ⟨.hexRange, after.since cursor.offset⟩

/-- Splits a text at the first place where `mark` stands. -/
def splitAtMark (mark : List Char) : List Char → Option (List Char × List Char)
  | [] => none
  | char :: rest =>
    if mark.isPrefixOf (char :: rest) then some ([], (char :: rest).drop mark.length)
    else (splitAtMark mark rest).map fun (before, after) => (char :: before, after)

/-- The property that a text in braces asks for, and whether it asks for those without it. -/
def query (text : List Char) : Query × Bool :=
  match splitAtMark ['!', '='] text with
  | some (name, value) => (.value (String.ofList name) (String.ofList value), true)
  | none =>
    match splitAtMark [':'] text <|> splitAtMark ['='] text with
    | some (name, value) => (.value (String.ofList name) (String.ofList value), false)
    | none => (.name (String.ofList text), false)

/-- Reads the property behind the letter p, or P if `negated`, of the escape that starts at
`start`. -/
def readProperty (extended : Bool) (start : Nat) (negated : Bool) (cursor : Cursor) :
    Except Fault (Atom × Cursor) :=
  let cursor := cursor.advance extended
  match cursor.peek? with
  | none => .error ⟨.escapeCut, cursor.here⟩
  | some '\x7b' =>
    let (text, after) := (cursor.advance extended).takeWhile extended (· ≠ '\x7d')
    match after.peek? with
    | none => .error ⟨.escapeCut, after.here⟩
    | some _ =>
      let (query, unequal) := query text
      let behind := after.next
      .ok (⟨.property query (negated != unequal), behind.since start⟩, behind)
  | some '\\' => .error ⟨.propertyBackslash, cursor.sign⟩
  | some letter =>
    let behind := cursor.advance extended
    .ok (⟨.property (.name letter.toString) negated, behind.since start⟩, behind)

def isBorderChar (char : Char) : Bool := char.isAlpha || char = '-'

def border? : String → Option WordBorder
  | "start" => some .start
  | "end" => some .stop
  | "start-half" => some .noneBefore
  | "end-half" => some .noneAfter
  | _ => none

/-- Reads what follows the letter b of an escape that starts at `start`: a border named in braces,
or nothing if the brace starts a repetition or is missing. -/
def readBorder (extended : Bool) (start : Nat) (cursor : Cursor) : Except Fault (Atom × Cursor) :=
  let plain : Atom × Cursor := (⟨.border .either, cursor.since start⟩, cursor)
  if cursor.peek? ≠ some '\x7b' then .ok plain
  else
    let inside := cursor.advance extended
    match inside.peek? with
    | none => .error ⟨.borderCut, inside.since start⟩
    | some first =>
      if !isBorderChar first then .ok plain
      else
        let (name, after) := inside.takeWhile extended isBorderChar
        if after.peek? ≠ some '\x7d' then .error ⟨.borderUnclosed, after.since cursor.offset⟩
        else
          match border? (String.ofList name) with
          | none => .error ⟨.borderUnknown, after.since inside.offset⟩
          | some kind => .ok (⟨.border kind, after.next.since start⟩, after.next)

/-- What a letter behind a backslash says, for the letters that need nothing else. -/
def ofLetter? : Char → Option Sign
  | 'a' => some (.char '\x07' false)
  | 'f' => some (.char '\x0c' false)
  | 't' => some (.char '\t' false)
  | 'n' => some (.char '\n' false)
  | 'r' => some (.char '\r' false)
  | 'v' => some (.char '\x0b' false)
  | 'A' => some .textStart
  | 'z' => some .textEnd
  | 'B' => some (.border .inside)
  | '<' => some (.border .start)
  | '>' => some (.border .stop)
  | 'd' => some (.class .digit false)
  | 'D' => some (.class .digit true)
  | 's' => some (.class .space false)
  | 'S' => some (.class .space true)
  | 'w' => some (.class .word false)
  | 'W' => some (.class .word true)
  | _ => none

/-- Reads the escape whose backslash is at the cursor. -/
def readEscape (extended : Bool) (cursor : Cursor) : Except Fault (Atom × Cursor) :=
  let start := cursor.offset
  let letter := cursor.next
  match letter.peek? with
  | none => .error ⟨.escapeCut, letter.since start⟩
  | some char =>
    if char.isDigit then .error ⟨.backReference, letter.next.since start⟩
    else if char = 'x' ∨ char = 'u' ∨ char = 'U' then readHex extended start char letter
    else if char = 'p' then readProperty extended start false letter
    else if char = 'P' then readProperty extended start true letter
    else if char = 'b' then readBorder extended start letter.next
    else if isEscapable char then .ok (⟨.char char false, letter.next.since start⟩, letter.next)
    else
      match ofLetter? char with
      | some sign => .ok (⟨sign, letter.next.since start⟩, letter.next)
      | none => .error ⟨.escapeUnknown, letter.next.since start⟩

/-- What a character says that stands outside brackets and has no other meaning there. -/
def ofChar : Char → Sign
  | '.' => .dot
  | '^' => .caret
  | '$' => .dollar
  | char => .char char false

/-- Reads an atom outside brackets. -/
def read (extended : Bool) (cursor : Cursor) : Except Fault (Atom × Cursor) :=
  match cursor.peek? with
  | none => .error ⟨.escapeCut, cursor.here⟩
  | some '\\' => readEscape extended cursor
  | some char => .ok (⟨ofChar char, cursor.sign⟩, cursor.next)

/-- Reads an atom inside brackets, where only the backslash has a meaning. -/
def readMember (extended : Bool) (cursor : Cursor) : Except Fault (Atom × Cursor) :=
  match cursor.peek? with
  | none => .error ⟨.bracketUnclosed, cursor.here⟩
  | some '\\' => readEscape extended cursor
  | some char => .ok (⟨.char char false, cursor.sign⟩, cursor.next)

/-! ## Meaning

Some faults do not stop the reading: they are reported only if the rest of the text has none. The
functions below give the meaning of an atom together with such a fault, if there is one. -/

def classSet (flags : Flags) : ShortClass → CharSet
  | .digit => if flags.unicode then .digit else .asciiDigits
  | .space => if flags.unicode then .space else .asciiSpace
  | .word => if flags.unicode then .word else .asciiWord

def queryTable : Query → Except Unicode.PropertyFault Unicode.RangeTable
  | .name name => Unicode.Property.ofName name
  | .value name value => Unicode.Property.ofValue name value

def negate (negated : Bool) (set : CharSet) : CharSet := if negated then set.negate else set

/-- The set of characters that a class stands for; without the unicode flag the complement of one
would hold broken characters. -/
def ofClass (flags : Flags) (span : Span) (kind : ShortClass) (negated : Bool) :
    CharSet × Option Fault :=
  (negate negated (classSet flags kind),
    if !flags.unicode && negated then some ⟨.brokenText, span⟩ else none)

def ofProperty (flags : Flags) (span : Span) (query : Query) (negated : Bool) :
    CharSet × Option Fault :=
  if !flags.unicode then (.empty, some ⟨.beyondAscii, span⟩)
  else
    match queryTable query with
    | .ok table => (negate negated (flags.fold (.table table)), none)
    | .error fault => (.empty, some ⟨.property fault, span⟩)

def dotSet (flags : Flags) : CharSet :=
  if flags.dotAll then .all else if flags.returns then .compl .lineEnds else .compl .lineFeed

/-- The fault of a character written as a byte, without the unicode flag, that is no whole
character. -/
def byteFault? (flags : Flags) (span : Span) (char : Char) (fixed : Bool) : Option Fault :=
  if !flags.unicode && fixed && 0x80 ≤ char.toNat then some ⟨.brokenText, span⟩ else none

def borderAssertion (flags : Flags) (kind : WordBorder) : Assertion :=
  .word kind (if flags.unicode then .unicode else .ascii)

def toExpr (flags : Flags) (atom : Atom) : Expr × Option Fault :=
  match atom.sign with
  | .char char fixed => (.set (flags.fold (.single char)), byteFault? flags atom.span char fixed)
  | .dot => (.set (dotSet flags), if flags.unicode then none else some ⟨.brokenText, atom.span⟩)
  | .caret => (.look (if flags.multiLine then .lineStart flags.returns else .textStart), none)
  | .dollar => (.look (if flags.multiLine then .lineEnd flags.returns else .textEnd), none)
  | .textStart => (.look .textStart, none)
  | .textEnd => (.look .textEnd, none)
  | .border kind => (.look (borderAssertion flags kind), none)
  | .class kind negated =>
    let (set, fault) := ofClass flags atom.span kind negated
    (.set set, fault)
  | .property query negated =>
    let (set, fault) := ofProperty flags atom.span query negated
    (.set set, fault)

/-- The fault of a character inside brackets without the unicode flag. -/
def memberFault? (flags : Flags) (span : Span) (char : Char) (fixed : Bool) : Option Fault :=
  if flags.unicode || char.toNat < 0x80 then none
  else some ⟨if fixed then .brokenText else .beyondAscii, span⟩

def toSet (flags : Flags) (atom : Atom) : Except Fault (CharSet × Option Fault) :=
  match atom.sign with
  | .char char fixed => .ok (.single char, memberFault? flags atom.span char fixed)
  | .class kind negated => .ok (ofClass flags atom.span kind negated)
  | .property query negated => .ok (ofProperty flags atom.span query negated)
  | _ => .error ⟨.assertionInBrackets, atom.span⟩

/-- The character for an atom at the end of a range inside brackets. -/
def toRangeEnd (flags : Flags) (atom : Atom) : Except Fault (Char × Option Fault) :=
  match atom.sign with
  | .char char fixed => .ok (char, memberFault? flags atom.span char fixed)
  | _ => .error ⟨.rangeEnd, atom.span⟩

end Atom

end TextTemplate
