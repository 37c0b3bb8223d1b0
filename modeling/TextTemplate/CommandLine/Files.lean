import TextTemplate.CommandLine.Path

/-!
# Files

A tree of files by their paths, and what reading a path gives. -/

namespace TextTemplate.CommandLine

/-- Why subjects cannot be read. Among the reasons are a path that leads to a directory or through a
file, and bytes that are no text in UTF-8. -/
inductive ReadFault
  | missing
  | isDirectory
  | notDirectory
  | notText
  | other (description : String)
deriving DecidableEq, Repr

def ReadFault.message : ReadFault → String
  | missing => "No such file or directory (os error 2)"
  | isDirectory => "Is a directory (os error 21)"
  | notDirectory => "Not a directory (os error 20)"
  | notText => "stream did not contain valid UTF-8"
  | other description => description

/-- A directory with everything in it, files and directories given by the names on their path. -/
structure FileTree where
  files : List (List String × ByteArray)
  directories : List (List String)

namespace FileTree

/-- Where a path leads: to a directory, given by the names on its path, or to a file. -/
inductive Target
  | directory (names : List String)
  | file (bytes : ByteArray)

/-- Goes on from a directory along the steps of a path. Two dots lead back. -/
def walk (tree : FileTree) (names : List String) : List String → Except ReadFault Target
  | [] => .ok (.directory names)
  | step :: steps =>
    if Path.staysAt step then tree.walk names steps
    else if step = ".." then tree.walk names.dropLast steps
    else if tree.directories.contains (names ++ [step]) then tree.walk (names ++ [step]) steps
    else
      match tree.files.lookup (names ++ [step]) with
      | none => .error .missing
      | some bytes => if steps.isEmpty then .ok (.file bytes) else .error .notDirectory

/-- The bytes of the file that a path leads to from the top of the tree. A path that starts with a
slash leads out of the tree, where nothing is. -/
def read (tree : FileTree) (path : String) : Except ReadFault ByteArray :=
  if path.toList.head? = some '/' then .error .missing
  else
    match tree.walk [] (Path.steps path) with
    | .ok (.file bytes) => .ok bytes
    | .ok (.directory _) => .error .isDirectory
    | .error fault => .error fault

end FileTree

end TextTemplate.CommandLine
