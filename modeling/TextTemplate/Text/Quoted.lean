import TextTemplate.Unicode.Newer

/-!
# Quoted texts

In log lines a value stands between quotation marks, with everything escaped that could not be seen
or told apart there: quotation marks, backslashes, line ends, marks that combine with the character
before them, and characters that print nothing. -/

namespace TextTemplate.Text.Quoted

/-- Whether a character is written by its number. Of ASCII only the controls are, so that the
tables need not be asked there. -/
def isNumbered (char : Char) : Bool :=
  if Unicode.isAscii char then char.toNat < 0x20 || char.toNat = 0x7F
  else
    Unicode.extendingMarks.mem char || Unicode.ignorable.mem char || Unicode.unprintable.mem char

def encodeChar (char : Char) : List Char :=
  match char with
  | '"' => ['\\', '"']
  | '\\' => ['\\', '\\']
  | '\n' => ['\\', 'n']
  | '\r' => ['\\', 'r']
  | '\t' => ['\\', 't']
  | '\x00' => ['\\', '0']
  | char =>
    if isNumbered char then
      ['\\', 'u', '\x7b'] ++ Nat.toDigits 16 char.toNat ++ ['\x7d']
    else [char]

/-- How a text is written, with its quotation marks. -/
def encode (text : List Char) : List Char := '"' :: text.flatMap encodeChar ++ ['"']

end TextTemplate.Text.Quoted
