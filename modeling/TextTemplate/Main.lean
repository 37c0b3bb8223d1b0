import TextTemplate.CommandLine.Run

/-!
# The program

Connects the program to the standard streams, to the files and to the setting of the log. -/

namespace TextTemplate.CommandLine

/-- The fault that a failed reading of a file stands for. -/
def ReadFault.ofIOError (error : IO.Error) : ReadFault :=
  match error with
  | .noFileOrDirectory .. => .missing
  | .inappropriateType _ 21 _ => .isDirectory
  | .inappropriateType .. => .notDirectory
  | failure => .other (toString failure)

def readFileAt (path : String) : IO (Except ReadFault ByteArray) := do
  try
    return .ok (← IO.FS.readBinFile path)
  catch error => return .error (.ofIOError error)

def readStandardInput : IO ByteArray := do
  (← IO.getStdin).readBinToEnd

/-- Finds what an invocation reads. -/
def Environment.find (arguments : List String) : IO Environment := do
  let logFilter ← IO.getEnv "LONGVIEW_LOG"
  let takesColors := allowsColors (← (← IO.getStdout).isTty) (← IO.getEnv "TERM")
    (← IO.getEnv "NO_COLOR")
  let nothing : Environment := ⟨.empty, fun _ => .error .missing, logFilter, takesColors⟩
  match Invocation.ofArguments arguments with
  | .error _ => return nothing
  | .ok invocation =>
    if invocation.showSource then return nothing
    match invocation.source with
    | .arguments _ => return nothing
    | .standardInput => return { nothing with standardInput := ← readStandardInput }
    | .file path =>
      let bytes ← readFileAt path
      return { nothing with readFile := fun _ => bytes }

end TextTemplate.CommandLine

def main (arguments : List String) : IO UInt32 := do
  let environment ← TextTemplate.CommandLine.Environment.find arguments
  let outcome := TextTemplate.CommandLine.run environment arguments
  (← IO.getStdout).putStr outcome.output
  (← IO.getStdout).flush
  (← IO.getStderr).putStr outcome.errors
  return outcome.code.toUInt32
