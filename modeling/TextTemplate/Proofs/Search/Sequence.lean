import Mathlib.Data.List.Induction
import TextTemplate.Expr.SearchLemmas

/-!
# Sequences of expressions

A sequence is searched like the list of its expressions: going backwards, each expression starts
from the places that the later ones have found, and going forwards, each one goes into these
places. -/

namespace TextTemplate

namespace Trail

@[simp] theorem append_stay (trail : Trail) : trail.append (stay trail.stop) = trail := by
  simp [append, stay]

@[simp] theorem stay_append (place : Nat) (trail : Trail) : (stay place).append trail = trail := by
  simp [append, stay]

theorem append_assoc (first second third : Trail) :
    (first.append second).append third = first.append (second.append third) := by
  simp [append]

@[simp] theorem stop_append (first rest : Trail) : (first.append rest).stop = rest.stop := rfl

@[simp] theorem stop_stay (place : Nat) : (stay place).stop = place := rfl

end Trail

namespace Expr

variable {text : Array Char}

/-- The places where some expressions, one after the other, may start in order to stop at one of
`targets`. -/
def startsAll (text : Array Char) (exprs : List Expr) (targets : List Nat) : List Nat :=
  exprs.foldr (startsBefore text) targets

/-- Goes from `place` into `targets` along some expressions, one after the other. -/
def followAll (text : Array Char) : List Expr → (place : Nat) → (targets : List Nat) → Trail
  | [], place, _ => .stay place
  | expr :: exprs, place, targets =>
    let trail := follow text expr place (startsAll text exprs targets)
    trail.append (followAll text exprs trail.stop targets)

@[simp] theorem startsAll_nil (targets : List Nat) : startsAll text [] targets = targets := rfl

@[simp] theorem startsAll_cons (expr : Expr) (exprs : List Expr) (targets : List Nat) :
    startsAll text (expr :: exprs) targets = startsBefore text expr (startsAll text exprs targets) :=
  rfl

theorem startsAll_append (first second : List Expr) (targets : List Nat) :
    startsAll text (first ++ second) targets = startsAll text first (startsAll text second targets) :=
  List.foldr_append

theorem followAll_singleton (expr : Expr) (place : Nat) (targets : List Nat) :
    followAll text [expr] place targets = follow text expr place targets := by
  simp [followAll]

theorem followAll_append (first second : List Expr) (place : Nat) (targets : List Nat) :
    followAll text (first ++ second) place targets =
      (followAll text first place (startsAll text second targets)).append
        (followAll text second (followAll text first place (startsAll text second targets)).stop
          targets) := by
  induction first generalizing place with
  | nil => simp [followAll]
  | cons expr first ih =>
    simp only [List.cons_append, followAll, startsAll_append, ih, Trail.append_assoc,
      Trail.stop_append]

/-- A sequence with one more expression starts where the shorter one does in order to stop where the
new expression starts. -/
private theorem startsBefore_sequence_cons (expr : Expr) (earlier : List Expr)
    (targets : List Nat) :
    startsBefore text (sequence (expr :: earlier)) targets =
      startsBefore text (sequence earlier) (startsBefore text expr targets) := by
  cases earlier <;> rfl

private theorem follow_sequence_cons (expr : Expr) (earlier : List Expr) (place : Nat)
    (targets : List Nat) :
    follow text (sequence (expr :: earlier)) place targets =
      (follow text (sequence earlier) place (startsBefore text expr targets)).append
        (follow text expr (follow text (sequence earlier) place (startsBefore text expr targets)).stop
          targets) := by
  cases earlier with
  | nil => exact (Trail.stay_append ..).symm
  | cons => rfl

/-- A sequence starts where the list of its expressions does. -/
theorem startsBefore_sequence (exprs : List Expr) (targets : List Nat) :
    startsBefore text (sequence exprs.reverse) targets = startsAll text exprs targets := by
  induction exprs using List.reverseRecOn generalizing targets with
  | nil => rfl
  | append_singleton exprs expr ih =>
    rw [List.reverse_append, List.reverse_singleton, List.singleton_append,
      startsBefore_sequence_cons, ih, startsAll_append]
    rfl

/-- A sequence goes the way of the list of its expressions. -/
theorem follow_sequence (exprs : List Expr) (place : Nat) (targets : List Nat) :
    follow text (sequence exprs.reverse) place targets = followAll text exprs place targets := by
  induction exprs using List.reverseRecOn generalizing targets with
  | nil => rfl
  | append_singleton exprs expr ih =>
    rw [List.reverse_append, List.reverse_singleton, List.singleton_append, follow_sequence_cons, ih,
      followAll_append]
    simp [followAll]

end Expr

end TextTemplate
