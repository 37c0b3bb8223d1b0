import TextTemplate.Expr.Fault

/-!
# Levels of parts inside parts

An expression whose parts lie inside each other on too many levels is refused, and the fault names
the first part in the text that lies too deep. To find it, a part carries its spine: for every
level below it, the first part of the text on that level. -/

namespace TextTemplate

/-- For every level of parts inside a part, the stretch of the first part on that level; the part
itself comes first if it counts as a level. -/
abbrev Spine := List Span

namespace Spine

def merge (first second : Spine) : Spine := first ++ second.drop first.length

/-- The spine of parts that follow each other, given the last one first. -/
def mergeAll (parts : List Spine) : Spine := parts.foldl (fun merged part => merge part merged) []

/-- The fault of a text whose parts have this spine, if they lie too deep. -/
def fault? (spine : Spine) : Option Fault := spine[nestingLimit]?.map fun span => ⟨.nesting, span⟩

end Spine

end TextTemplate
