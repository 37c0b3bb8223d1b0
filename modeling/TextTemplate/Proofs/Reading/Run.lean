import TextTemplate.Expr.Reader
import TextTemplate.Proofs.Reading.Cursor

/-!
# Runs of the reading

A run of the reading goes from sign to sign. A sign leads from one place of the text to a later one,
and what is left of the run starts there. -/

namespace TextTemplate

namespace Reading

/-- Reads signs from a place up to the end of the text. -/
def runFrom (reading : Reading) (cursor : Cursor) : Except Fault Reading :=
  run 0 cursor.offset cursor.rest reading

theorem run_length (taken rest : List Char) (offset : Nat) (reading : Reading) :
    run taken.length offset (taken ++ rest) reading =
      run 0 (offset + taken.length) rest reading := by
  induction taken generalizing offset with
  | nil => rfl
  | cons char taken ih =>
    rw [List.length_cons, List.cons_append, run, ih]
    congr 1
    omega

theorem runFrom_end (reading : Reading) (offset : Nat) :
    reading.runFrom ⟨offset, []⟩ = .ok reading := by
  simp [runFrom, run]

/-- A sign takes the run on to the place behind it. -/
theorem runFrom_of_step {reading next : Reading} {cursor after : Cursor}
    (moves : cursor.LeadsTo after) (shorter : after.rest.length < cursor.rest.length)
    (read : reading.step cursor = .ok (next, after)) :
    reading.runFrom cursor = next.runFrom after := by
  obtain ⟨offset, text⟩ := cursor
  obtain ⟨behind, rest⟩ := after
  obtain ⟨taken, split, place⟩ := moves
  dsimp only at split place shorter
  subst split place
  cases taken with
  | nil => simp at shorter
  | cons char taken =>
    have skipped := run_length taken rest (offset + 1) next
    simp only [runFrom, List.cons_append, run] at read ⊢
    rw [read]
    have count : offset + (char :: taken).length - offset - 1 = taken.length := by
      rw [List.length_cons]; omega
    have place : offset + (char :: taken).length = offset + 1 + taken.length := by
      rw [List.length_cons]; omega
    calc run (offset + (char :: taken).length - offset - 1) (offset + 1) (taken ++ rest) next
        = run taken.length (offset + 1) (taken ++ rest) next := by rw [count]
      _ = run 0 (offset + (char :: taken).length) rest next := by rw [skipped, place]

/-- A sign that takes some characters takes the run on behind them. -/
theorem runFrom_append (taken rest : List Char) (offset : Nat) {reading next : Reading}
    (some : taken ≠ [])
    (read : reading.step ⟨offset, taken ++ rest⟩ = .ok (next, ⟨offset + taken.length, rest⟩)) :
    reading.runFrom ⟨offset, taken ++ rest⟩ = next.runFrom ⟨offset + taken.length, rest⟩ := by
  apply runFrom_of_step ⟨taken, rfl, rfl⟩ _ read
  have positive := List.length_pos_iff.mpr some
  change rest.length < (taken ++ rest).length
  rw [List.length_append]
  omega

/-- A sign at which the reading fails ends the run. -/
theorem runFrom_of_step_error {reading : Reading} {cursor : Cursor} {fault : Fault}
    (some : cursor.rest ≠ []) (failed : reading.step cursor = .error fault) :
    reading.runFrom cursor = .error fault := by
  obtain ⟨offset, text⟩ := cursor
  cases text with
  | nil => contradiction
  | cons char rest =>
    rw [runFrom, run, failed]
    rfl

/-! ## Texts that are read whatever comes behind them -/

/-- A text takes the reading from one state to another, whatever comes behind it. Only a question
mark there would say something about the last part of the text. -/
def Takes (reading next : Reading) (offset : Nat) (text : List Char) : Prop :=
  ∀ rest : List Char, rest.head? ≠ some '?' →
    reading.runFrom ⟨offset, text ++ rest⟩ = next.runFrom ⟨offset + text.length, rest⟩

namespace Takes

variable {reading middle next : Reading} {offset : Nat} {first second text : List Char}

theorem nil (reading : Reading) (offset : Nat) : reading.Takes reading offset [] := fun _ _ => rfl

theorem append (takes : reading.Takes middle offset first) (apart : second.head? ≠ some '?')
    (behind : middle.Takes next (offset + first.length) second) :
    reading.Takes next offset (first ++ second) := by
  intro rest free
  have apartRest : (second ++ rest).head? ≠ some '?' := by
    cases second with
    | nil => exact free
    | cons => exact apart
  rw [List.append_assoc, takes _ apartRest, behind rest free, List.length_append, Nat.add_assoc]

/-- The run on the text alone ends in the state behind it. -/
theorem runFrom_eq (takes : reading.Takes next offset text) :
    reading.runFrom ⟨offset, text⟩ = .ok next := by
  have alone := takes [] (by simp)
  rwa [List.append_nil, runFrom_end] at alone

end Takes

/-- A sign that is read whatever comes behind it. -/
theorem takes_of_step {reading next : Reading} {offset : Nat} {taken : List Char} (some : taken ≠ [])
    (read : ∀ rest, rest.head? ≠ Option.some '?' →
      reading.step ⟨offset, taken ++ rest⟩ = .ok (next, ⟨offset + taken.length, rest⟩)) :
    reading.Takes next offset taken :=
  fun rest free => runFrom_append taken rest offset some (read rest free)

end Reading

end TextTemplate
