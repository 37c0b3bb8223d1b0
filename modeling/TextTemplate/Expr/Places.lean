/-!
# Sets of places

The search works on sets of places of a text, kept as ascending lists. A step maps the set of
places where something may stop to the set of places where it may start; this module repeats
steps. -/

namespace TextTemplate.Places

/-- Merges `place`, followed by what `rest` makes of the others, into an ascending list. -/
def weave (place : Nat) (rest : List Nat → List Nat) : List Nat → List Nat
  | [] => place :: rest []
  | other :: others =>
    if place < other then place :: rest (other :: others)
    else if other < place then other :: weave place rest others
    else place :: rest others

def union : List Nat → List Nat → List Nat
  | [], others => others
  | place :: places, others => weave place (union places) others

/-- The places from which `count` steps lead into `targets`. As soon as a step changes nothing, no
further one does. -/
def repeatStep (step : List Nat → List Nat) : (count : Nat) → (targets : List Nat) → List Nat
  | 0, targets => targets
  | count + 1, targets =>
    let starts := step targets
    if starts = targets then targets else repeatStep step count starts

/-- Whether a place stands in a list before any greater one; in an ascending list, whether it stands
there. -/
def isListed (place : Nat) : List Nat → Bool
  | [] => false
  | other :: others => if other < place then isListed place others else other == place

/-- The places of `seen`, and those from which at most `count` steps lead to one of `fresh`,
provided that whatever one step leads to `seen` lies in `seen` or in `fresh`. -/
def reachFrom (step : List Nat → List Nat) : (count : Nat) → (seen fresh : List Nat) → List Nat
  | 0, seen, fresh => union fresh seen
  | count + 1, seen, fresh =>
    if fresh.isEmpty then seen
    else
      let known := union fresh seen
      reachFrom step count known ((step fresh).filter fun place => !isListed place known)

/-- The places from which at most `count` steps lead into `targets`. -/
def reach (step : List Nat → List Nat) (count : Nat) (targets : List Nat) : List Nat :=
  reachFrom step count [] targets

end TextTemplate.Places
