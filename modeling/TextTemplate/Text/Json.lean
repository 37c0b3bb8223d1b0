/-!
# Texts in JSON

A text is written in JSON between quotation marks. Quotation marks, backslashes and the control
characters below the blank are escaped, with a letter where there is one and else with four
hexadecimal digits; all other characters stand for themselves. -/

namespace TextTemplate.Text.Json

def hexDigit (value : Nat) : Char :=
  if value < 10 then Char.ofNat ('0'.toNat + value) else Char.ofNat ('a'.toNat + (value - 10))

/-- How a character is written inside quotation marks. -/
def encodeChar (char : Char) : List Char :=
  match char with
  | '"' => ['\\', '"']
  | '\\' => ['\\', '\\']
  | '\x08' => ['\\', 'b']
  | '\x0c' => ['\\', 'f']
  | '\n' => ['\\', 'n']
  | '\r' => ['\\', 'r']
  | '\t' => ['\\', 't']
  | char =>
    if char.toNat < 0x20 then
      ['\\', 'u', '0', '0', hexDigit (char.toNat / 16), hexDigit (char.toNat % 16)]
    else [char]

/-- How a text is written, with its quotation marks. -/
def encode (text : List Char) : List Char := '"' :: text.flatMap encodeChar ++ ['"']

/-- How some members of an object are written between its braces. -/
def encodeMembers : List (String × String) → List Char
  | [] => []
  | [(name, value)] => encode name.toList ++ ':' :: encode value.toList
  | (name, value) :: member :: members =>
    encode name.toList ++ ':' :: encode value.toList ++ ',' :: encodeMembers (member :: members)

/-- How an object whose values are texts is written. -/
def encodeObject (members : List (String × String)) : List Char :=
  '\x7b' :: encodeMembers members ++ ['\x7d']

end TextTemplate.Text.Json
