import TextTemplate.CommandLine.Files
import TextTemplate.CommandLine.Invocation
import TextTemplate.Text.Lines

/-!
# Subjects

The subjects of an invocation are its arguments, or the lines of a file or of the standard input. -/

namespace TextTemplate.CommandLine

/-- What the program finds around it. -/
structure Environment where
  standardInput : ByteArray
  /-- What reading a file gives. -/
  readFile : String → Except ReadFault ByteArray
  /-- The setting of what is logged. -/
  logFilter : Option String
  takesColors : Bool

/-- Whether colours are written to a standard output that may be a terminal, by the kind of terminal
and by the setting that asks all programs to do without them. -/
def Environment.allowsColors (isTerminal : Bool) (kind noColor : Option String) : Bool :=
  isTerminal && kind.any (· ≠ "dumb") && noColor.isNone

/-- Why subjects cannot be read, and the path of the file, or what stands for the standard input. -/
structure SubjectError where
  path : String
  fault : ReadFault
deriving DecidableEq, Repr

/-- The message for an error, without the fault. -/
def SubjectError.message (error : SubjectError) : String :=
  s!"Failed to read subjects from '{error.path}'"

namespace Subjects

def decode? (bytes : List UInt8) : Option String := String.fromUTF8? ⟨bytes.toArray⟩

/-- The lines of some bytes, each of which has to be a text. -/
def ofBytes? (bytes : ByteArray) : Option (List String) :=
  (Text.Lines.split 0x0A 0x0D bytes.toList).mapM decode?

def ofRead (path : String) : Except ReadFault ByteArray → Except SubjectError (List String)
  | .error fault => .error ⟨path, fault⟩
  | .ok bytes =>
    match ofBytes? bytes with
    | none => .error ⟨path, .notText⟩
    | some subjects => .ok subjects

def ofSource (environment : Environment) : SubjectSource → Except SubjectError (List String)
  | .arguments subjects => .ok subjects
  | .file path => ofRead path (environment.readFile path)
  | .standardInput => ofRead "<stdin>" (.ok environment.standardInput)

end Subjects

end TextTemplate.CommandLine
