import TextTemplate.Expr.CharSet

/-!
# Flags

Flags change how the signs of an expression are read. They are set for the rest of a group or for a
group of their own. -/

namespace TextTemplate

/-- The flags in force at a place of an expression's text. -/
structure Flags where
  ignoreCase : Bool := false
  /-- The signs for start and end hold at every line. -/
  multiLine : Bool := false
  dotAll : Bool := false
  /-- Repetitions are lazy unless marked, instead of greedy. -/
  lazyFirst : Bool := false
  /-- Carriage returns end lines too. -/
  returns : Bool := false
  /-- Classes hold characters of all scripts, not of ASCII only. -/
  unicode : Bool := true
  /-- White space and comments do not count. -/
  extended : Bool := false
deriving DecidableEq, Repr, Inhabited

namespace Flags

def letters : List Char := ['i', 'm', 's', 'U', 'u', 'R', 'x']

def set (letter : Char) (on : Bool) (flags : Flags) : Flags :=
  match letter with
  | 'i' => { flags with ignoreCase := on }
  | 'm' => { flags with multiLine := on }
  | 's' => { flags with dotAll := on }
  | 'U' => { flags with lazyFirst := on }
  | 'R' => { flags with returns := on }
  | 'u' => { flags with unicode := on }
  | 'x' => { flags with extended := on }
  | _ => flags

/-- Sets flags as written: those before a hyphen are switched on, those behind it off. -/
def apply (written : List Char) (flags : Flags) : Flags :=
  ((written.takeWhile (· ≠ '-')).foldl (fun flags letter => flags.set letter true) flags
    |> (written.dropWhile (· ≠ '-')).foldl (fun flags letter => flags.set letter false))

def caseRule (flags : Flags) : CaseRule := if flags.unicode then .unicode else .ascii

/-- A set of characters, with all variants of case where case does not count. -/
def fold (flags : Flags) (set : CharSet) : CharSet :=
  if flags.ignoreCase then .folded flags.caseRule set else set

end Flags

end TextTemplate
