import TextTemplate.Unicode.Encoding

/-!
# Control codes

A message that does not go to a terminal is stripped of what only a terminal understands: of the
control characters, those for white space apart, and of the control sequences that begin with an
escape character. The sequences may be anywhere in the message, also in the texts that it quotes. -/

namespace TextTemplate.Text.ControlCodes

/-- What kind of control sequence is being read: one that has only begun, one of a few characters,
one with parameters, or one that holds a text for the system. One for a device has only begun, or it
has parameters, marks behind them, or a text, which is also the kind of a text without any use. -/
inductive Sequence
  | begun
  | short
  | parameters
  | device
  | deviceParameters
  | deviceMarks
  | deviceText
  | systemText
deriving DecidableEq, Repr

namespace Sequence

/-- Whether controls are lost in the sequence, those for white space too. -/
def isText : Sequence → Bool
  | begun | short | parameters => false
  | _ => true

/-- The sequence after one of its characters, which is neither a control nor beyond ASCII; there is
none when the character is the last one. -/
def next? (sequence : Sequence) (char : Char) : Option Sequence :=
  match sequence with
  | begun =>
    match char with
    | '[' => some parameters
    | ']' => some systemText
    | 'P' => some device
    | 'X' | '^' | '_' => some deviceText
    | _ => if char < '0' then some short else none
  | short => if char < '0' then some short else none
  | parameters => if char < '@' then some parameters else none
  | device =>
    some (if char < '0' then deviceMarks else if char < '@' then deviceParameters else deviceText)
  | deviceParameters =>
    some (if char < '0' then deviceMarks else if char < '<' then deviceParameters else deviceText)
  | deviceMarks => some (if char < '0' then deviceMarks else deviceText)
  | deviceText => some deviceText
  | systemText => some systemText

end Sequence

/-- How a message is read. In a text, white space or a character beyond ASCII ends a sequence of
another kind; in a stream of bytes, a sequence goes on behind white space, when the next control
comes. -/
inductive Medium
  | text
  | bytes
deriving DecidableEq, Repr

/-- Where a reader of a message is: in a sequence that has not ended, which may have been left for a
while, or in none. -/
structure Position where
  sequence : Option Sequence
  isPaused : Bool
deriving DecidableEq, Repr

namespace Position

def outside : Position := ⟨none, false⟩

def inside (sequence : Sequence) : Position := ⟨some sequence, false⟩

end Position

/-- Whether the character is a control for white space. -/
def isSpacing (char : Char) : Bool :=
  char = '\t' || char = '\n' || char = '\x0c' || char = '\r'

def isControl (char : Char) : Bool := char < ' ' || char = '\x7f'

def isKept (char : Char) : Bool := !isControl char || isSpacing char

/-- Whether one of the bytes that encode the character ends a text for a device. -/
def endsDeviceText (char : Char) : Bool :=
  (Unicode.Encoding.bytes char.toNat).contains 0x9C

/-- What is kept of a character beyond ASCII inside a sequence, and the position behind it. Of a
text the first byte of the character belongs to the sequence, and the others stand for no character
any more. -/
def stepBeyond (medium : Medium) (sequence : Sequence) (char : Char) : List Char × Position :=
  match medium with
  | .text => (List.replicate (char.utf8Size - 1) '\ufffd', .outside)
  | .bytes =>
    ([], if sequence = .deviceText && endsDeviceText char then .outside else .inside sequence)

/-- What is kept of a control inside a sequence, and the position behind it. -/
def stepControl (medium : Medium) (sequence : Sequence) (char : Char) : List Char × Position :=
  if sequence.isText then
    ([], if sequence = .systemText && char = '\x07' then .outside else .inside sequence)
  else if isSpacing char then
    match medium with
    | .text => ([char], .outside)
    | .bytes => ([char], ⟨some sequence, true⟩)
  else ([], .inside sequence)

/-- What is kept of a character at a position, and the position behind it. -/
def step (medium : Medium) (position : Position) (char : Char) : List Char × Position :=
  if char = '\x1b' then ([], .inside .begun)
  else if char = '\x18' || char = '\x1a' then ([], .outside)
  else
    match position with
    | ⟨none, _⟩ => (if isKept char then [char] else [], .outside)
    | ⟨some sequence, true⟩ =>
      if '\x80' ≤ char then ([char], .outside)
      else if isKept char then ([char], position)
      else ([], .inside sequence)
    | ⟨some sequence, false⟩ =>
      if '\x80' ≤ char then stepBeyond medium sequence char
      else if isControl char then stepControl medium sequence char
      else ([], ⟨sequence.next? char, false⟩)

/-- What is kept of a message from a position on. -/
def stripFrom (medium : Medium) : Position → List Char → List Char
  | _, [] => []
  | position, char :: rest =>
    let (kept, next) := step medium position char
    kept ++ stripFrom medium next rest

def strip (medium : Medium) (message : List Char) : List Char :=
  stripFrom medium .outside message

end TextTemplate.Text.ControlCodes
