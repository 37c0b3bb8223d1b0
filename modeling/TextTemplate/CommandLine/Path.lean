import TextTemplate.Text.Parts

/-!
# Paths

A path is written as steps between slashes. Paths are compared by their components: a slash at the
start and a dot as the first step count, while all other dots, repeated slashes and slashes at the
end do not. -/

namespace TextTemplate.CommandLine.Path

/-- What paths are compared by: the slash or the dot that a path may start with, and its other
steps. -/
inductive Component
  | root
  | current
  | parent
  | name (text : String)
deriving DecidableEq, Repr

/-- The steps of a path, which stand between its slashes. -/
def steps (path : String) : List String := (Text.cut '/' path.toList).map String.ofList

def staysAt (step : String) : Bool := step = "" || step = "."

/-- The component for a step that is not the first one. -/
def Component.ofStep? (step : String) : Option Component :=
  if staysAt step then none else if step = ".." then some .parent else some (.name step)

/-- The component that only the start of a path can have. -/
def start? (path : String) : Option Component :=
  if path.toList.head? = some '/' then some .root
  else if (steps path).head? = some "." then some .current
  else none

/-- The components of a path. Repeated slashes, slashes at the end and dots behind the first step
leave none. -/
def components (path : String) : List Component :=
  (start? path).toList ++ (steps path).filterMap Component.ofStep?

end TextTemplate.CommandLine.Path
