import TextTemplate.Expr.Place
import TextTemplate.Expr.Places

/-!
# Finding what an expression covers

The search goes through a text twice. Going backwards, Expr.startsBefore finds all places where the
expression may start in order to stop inside a set of places. Going forwards, Expr.follow takes at
every choice the first alternative from which the goal can still be reached, so that it never has to
go back: it finds the stretch that the expression prefers, and what its named groups capture. -/

namespace TextTemplate

/-- A stretch of the text that a group has captured under its name. -/
structure Capture where
  name : String
  start : Nat
  stop : Nat
deriving DecidableEq, Repr

/-- Where a stretch stops, and what was captured on the way, in the order of the groups' ends. -/
structure Trail where
  stop : Nat
  captures : List Capture
deriving DecidableEq, Repr

namespace Trail

def stay (place : Nat) : Trail := ⟨place, []⟩

def append (first : Trail) (rest : Trail) : Trail := ⟨rest.stop, first.captures ++ rest.captures⟩

/-- Exactly `count` rounds. `follow` makes one round into a set of places, and `step` tells from
where one can be made. -/
def exactly (step : List Nat → List Nat) (follow : Nat → List Nat → Trail) (targets : List Nat) :
    (count place : Nat) → Trail
  | 0, place => stay place
  | count + 1, place =>
    let round := follow place (Places.repeatStep step count targets)
    round.append (exactly step follow targets count round.stop)

/-- Whether a repetition makes another round from `place`, when a round has to stop at one of
`goals`: a greedy one does if it can, and a lazy one if it must. -/
def goesOn (step : List Nat → List Nat) (lazy : Bool) (targets goals : List Nat) (place : Nat) :
    Bool :=
  if lazy then !targets.contains place else (step goals).contains place

/-- At most `count` rounds. `ahead` holds the places from which `targets` can be reached within a
number of rounds. -/
def upTo (step : List Nat → List Nat) (follow : Nat → List Nat → Trail) (lazy : Bool)
    (targets : List Nat) (ahead : (rounds : Nat) → List Nat) : (count place : Nat) → Trail
  | 0, place => stay place
  | count + 1, place =>
    if goesOn step lazy targets (ahead count) place then
      let round := follow place (ahead count)
      round.append (upTo step follow lazy targets ahead count round.stop)
    else stay place

/-- Any number of rounds, each of which moves on; at most `count` of them. `ahead` holds the places
behind `place` from which `targets` can be reached by rounds. -/
def loop (step : List Nat → List Nat) (follow : Nat → List Nat → Trail) (lazy : Bool)
    (targets : List Nat) : (count : Nat) → (ahead : List Nat) → (place : Nat) → Trail
  | 0, _, place => stay place
  | count + 1, ahead, place =>
    let goals := ahead.dropWhile (· ≤ place)
    if goesOn step lazy targets goals place then
      let round := follow place goals
      round.append (loop step follow lazy targets count goals round.stop)
    else stay place

end Trail

namespace Expr

/-- The places where the expression may start in order to stop at one of `targets`. -/
def startsBefore (text : Array Char) : Expr → (targets : List Nat) → List Nat
  | empty, targets => targets
  | set chars, targets =>
    targets.filterMap fun target =>
      match target with
      | 0 => none
      | index + 1 => if text[index]?.any chars.mem then some index else none
  | look assertion, targets => targets.filter fun target => assertion.holds text target
  | seq first second, targets => startsBefore text first (startsBefore text second targets)
  | alt first second, targets =>
    Places.union (startsBefore text first targets) (startsBefore text second targets)
  | rep least more _ body, targets =>
    Places.repeatStep (startsBefore text body) least
      (Places.reach (startsBefore text body) (more.getD text.size) targets)
  | group _ body, targets => startsBefore text body targets

/-- Goes from `place` into `targets` along the expression, as it prefers. The place has to be one
from which the expression can stop at one of the targets. A repetition without a limit only makes
rounds that move on. -/
def follow (text : Array Char) : Expr → (place : Nat) → (targets : List Nat) → Trail
  | empty, place, _ => .stay place
  | set _, place, _ => .stay (place + 1)
  | look _, place, _ => .stay place
  | seq first second, place, targets =>
    let trail := follow text first place (startsBefore text second targets)
    trail.append (follow text second trail.stop targets)
  | alt first second, place, targets =>
    if (startsBefore text first targets).contains place then follow text first place targets
    else follow text second place targets
  | rep least none lazy body, place, targets =>
    let step := startsBefore text body
    let ahead := Places.reach step text.size targets
    let trail := Trail.exactly step (follow text body) ahead least place
    trail.append (Trail.loop step (follow text body) lazy targets text.size ahead trail.stop)
  | rep least (some limit) lazy body, place, targets =>
    let step := startsBefore text body
    let ahead (rounds : Nat) := Places.reach step rounds targets
    let trail := Trail.exactly step (follow text body) (ahead limit) least place
    trail.append (Trail.upTo step (follow text body) lazy targets ahead limit trail.stop)
  | group kind body, place, targets =>
    let trail := follow text body place targets
    match kind with
    | .named name => trail.append ⟨trail.stop, [⟨name, place, trail.stop⟩]⟩
    | _ => trail

def places (text : Array Char) : List Nat := List.range (text.size + 1)

/-- Whether the expression covers some stretch of the text. -/
def isMatch (expr : Expr) (text : Array Char) : Bool :=
  !(startsBefore text expr (places text)).isEmpty

/-- What the named groups capture in the preferred one of the leftmost stretches that the expression
covers, if there is one. -/
def captures? (expr : Expr) (text : Array Char) : Option (List Capture) :=
  ((startsBefore text expr (places text)).min?).map fun start =>
    (follow text expr start (places text)).captures

end Expr

end TextTemplate
