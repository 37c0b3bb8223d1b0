import TextTemplate.Expr.Reader
import TextTemplate.Expr.Report
import TextTemplate.Expr.Weight

/-!
# Compiling an expression

A text is compiled by reading it as an expression and refusing the expression if it is too heavy. -/

namespace TextTemplate

/-- Why a text cannot be compiled: it has a fault, or the expression is too heavy. -/
inductive CompileError
  | unreadable (source : String) (fault : Fault)
  | tooHeavy
deriving DecidableEq, Repr

def CompileError.message : CompileError → String
  | unreadable source fault => Report.fault source fault
  | tooHeavy => s!"Compiled regex exceeds size limit of {Layout.sizeLimit} bytes."

/-- The expression that a text spells, unless it has a fault or is too heavy. -/
def Expr.compile (source : List Char) : Except CompileError Expr :=
  match Expr.read source with
  | .error fault => .error (.unreadable (String.ofList source) fault)
  | .ok expr => if expr.isTooHeavy then .error .tooHeavy else .ok expr

end TextTemplate
