import TextTemplate.Proofs.Reading.MoveLocal
import TextTemplate.Proofs.Reading.Run

/-!
# Readings as chains of moves

A run of the reading that meets no fault is a chain of moves. The expression that a text spells can
be told from the state, apart from places, that the chain leads to at the end of the text. -/

namespace TextTemplate

namespace Reading

/-- The reading gets, move by move, from a state and a place to other ones. -/
inductive Reaches : Reading → Cursor → Reading → Cursor → Prop
  | stay (reading : Reading) (cursor : Cursor) : Reaches reading cursor reading cursor
  | move {reading middle form : Reading} {cursor between after : Cursor} :
    reading.Moves middle (cursor.skip reading.flags.extended) between →
    Reaches middle between form after → Reaches reading cursor form after

/-- The reading stands at the end of the text, or before what is skipped there. -/
def IsDone (reading : Reading) (cursor : Cursor) : Prop :=
  (cursor.skip reading.flags.extended).rest = []

variable {reading form : Reading} {cursor after : Cursor}

namespace Reaches

theorem trans {middle : Reading} {between : Cursor} (first : Reaches reading cursor middle between)
    (rest : Reaches middle between form after) : Reaches reading cursor form after := by
  induction first with
  | stay => exact rest
  | move moves _ ih => exact .move moves (ih rest)

theorem leadsTo (reaches : Reaches reading cursor form after) : cursor.LeadsTo after := by
  induction reaches with
  | stay => exact .refl _
  | move moves _ ih => exact ((Cursor.leadsTo_skip ..).trans moves.leadsTo).trans ih

/-- At the end no move can be made any more. -/
theorem eq_of_rest_eq_nil (reaches : Reaches reading cursor form after) (none : cursor.rest = []) :
    form = reading ∧ after = cursor := by
  cases reaches with
  | stay => exact ⟨rfl, rfl⟩
  | move moves _ =>
    have shorter := moves.shorter
    rw [Cursor.rest_skip, none, List.drop_nil] at shorter
    contradiction

/-- No fault that is to be reported at the end is forgotten. -/
theorem late_eq_none (reaches : Reaches reading cursor form after) (none : form.late = none) :
    reading.late = .none := by
  induction reaches with
  | stay => exact none
  | move moves _ ih => exact moves.late_eq_none (ih none)

end Reaches

/-! ## Runs -/

/-- Before the end the state stays as it is. -/
theorem runFrom_of_isDone (done : reading.IsDone cursor) : reading.runFrom cursor = .ok reading := by
  by_cases none : cursor.rest = []
  · obtain ⟨offset, text⟩ := cursor
    subst none
    exact runFrom_end ..
  · have read : reading.step cursor = .ok (reading, cursor.skip reading.flags.extended) := by
      unfold step readSign
      rw [done]
    have shorter : (cursor.skip reading.flags.extended).rest.length < cursor.rest.length := by
      rw [done]
      exact List.length_pos_iff.mpr none
    rw [runFrom_of_step (Cursor.leadsTo_skip ..) shorter read, runFrom, done, run]

/-- What can be reached is reached by the run, up to places. -/
theorem Reaches.exists_runFrom {start : Reading} (reaches : Reaches start cursor form after)
    (same : reading.unplaced = start) :
    ∃ placed : Reading, placed.unplaced = form ∧ reading.runFrom cursor = placed.runFrom after := by
  induction reaches generalizing reading with
  | stay => exact ⟨reading, same, rfl⟩
  | @move _ _ _ cursor between _ moves _ ih =>
    subst same
    rw [moves_unplaced] at moves
    have goesOn : (cursor.skip reading.flags.extended).rest ≠ [] :=
      List.length_pos_iff.mp (Nat.zero_lt_of_lt moves.shorter)
    obtain ⟨next, read, isMiddle⟩ := (readSign_eq_ok_iff goesOn).mpr moves
    obtain ⟨placed, isForm, run⟩ := ih isMiddle
    have skipped := cursor.leadsTo_skip reading.flags.extended
    refine ⟨placed, isForm, (runFrom_of_step (skipped.trans moves.leadsTo) ?_ read).trans run⟩
    exact Nat.lt_of_lt_of_le moves.shorter skipped.length_le

/-- What a run leads to can be reached, up to places. -/
theorem exists_reaches {reading final : Reading} {cursor : Cursor} (run : reading.runFrom cursor = .ok final) :
    ∃ after, Reaches reading.unplaced cursor final.unplaced after ∧ final.unplaced.IsDone after := by
  by_cases done : reading.IsDone cursor
  · cases (runFrom_of_isDone done).symm.trans run
    exact ⟨cursor, .stay .., done⟩
  · have skipped := cursor.leadsTo_skip reading.flags.extended
    cases read : reading.step cursor with
    | error fault =>
      rw [runFrom_of_step_error (skipped.ne_nil done) read] at run
      contradiction
    | ok next =>
      obtain ⟨next, between⟩ := next
      have moves : reading.Moves next.unplaced (cursor.skip reading.flags.extended) between :=
        (readSign_eq_ok_iff done).mp ⟨next, read, rfl⟩
      have shorter := Nat.lt_of_lt_of_le moves.shorter skipped.length_le
      rw [runFrom_of_step (skipped.trans moves.leadsTo) shorter read] at run
      obtain ⟨after, reaches, isDone⟩ := exists_reaches run
      rw [← moves_unplaced] at moves
      exact ⟨after, .move moves reaches, isDone⟩
termination_by cursor.rest.length

/-- A closing parenthesis outside all groups is a fault. -/
theorem runFrom_eq_groupUnopened (noGroup : reading.groups = []) (out : reading.brackets = [])
    (found : (cursor.skip reading.flags.extended).peek? = some ')') :
    reading.runFrom cursor =
      .error ⟨.groupUnopened, (cursor.skip reading.flags.extended).sign⟩ := by
  have goesOn := (cursor.leadsTo_skip reading.flags.extended).ne_nil (Cursor.ne_nil_of_peek? found)
  obtain ⟨rest, split⟩ := List.head?_eq_some_iff.mp found
  refine runFrom_of_step_error goesOn ?_
  unfold step readSign closeGroup
  rw [out, split, noGroup]
  rfl

/-! ## Whole texts -/

/-- A state in which nothing is left open and no fault is to be reported. -/
@[mk_iff]
structure IsWhole (reading : Reading) : Prop where
  brackets : reading.brackets = []
  groups : reading.groups = []
  late : reading.late = none

theorem isWhole_unplaced : reading.unplaced.IsWhole ↔ reading.IsWhole := by
  simp [isWhole_iff, unplaced, Fault.unplaced_eq_none_iff]

theorem finish_eq_ok_iff {stop : Nat} {expr : Expr} :
    reading.finish stop = .ok expr ↔
      reading.IsWhole ∧ (reading.level.content stop).spine.fault? = none ∧
        (reading.level.content stop).expr = expr := by
  unfold finish
  split
  · next found => simp [isWhole_iff, found]
  · next found => simp [isWhole_iff, found]
  · next out noGroup =>
    simp only [isWhole_iff, out, noGroup, true_and]
    cases (reading.level.content stop).spine.fault? <;> cases reading.late <;> simp

/-- At the end of a text that leaves nothing open, only the levels of parts inside parts can be
wrong. -/
theorem IsWhole.exists_nesting {stop : Nat} (whole : reading.IsWhole)
    (deep : (reading.level.content stop).spine.fault? ≠ none) :
    ∃ span, reading.finish stop = .error ⟨.nesting, span⟩ := by
  obtain ⟨brackets, groups, late⟩ := whole
  unfold Spine.fault? at deep
  obtain ⟨span, found⟩ := Option.ne_none_iff_exists'.mp (mt Option.map_eq_none_iff.mpr deep)
  refine ⟨span, ?_⟩
  simp [finish, brackets, groups, Spine.fault?, found]

end Reading

theorem Reading.unplaced_initial : initial.unplaced = initial := rfl

/-- The text spells the expression, however many levels of parts inside parts there are. -/
def Spells (text : List Char) (expr : Expr) : Prop :=
  ∃ (form : Reading) (after : Cursor), Reading.initial.Reaches ⟨0, text⟩ form after ∧
    form.IsDone after ∧ form.IsWhole ∧ (form.level.content 0).expr = expr

/-- Whether the only fault of a text is that its parts lie too deep inside each other. -/
def IsTooDeep (text : List Char) : Prop := ∃ span, Expr.read text = .error ⟨.nesting, span⟩

theorem Expr.spells_of_read {text : List Char} {expr : Expr} (read : Expr.read text = .ok expr) :
    Spells text expr := by
  simp only [Expr.read, bind_eq_ok_iff] at read
  obtain ⟨final, run, finish⟩ := read
  obtain ⟨whole, _, rfl⟩ := Reading.finish_eq_ok_iff.mp finish
  have start : Reading.initial.runFrom ⟨0, text⟩ = .ok final := run
  obtain ⟨after, reaches, done⟩ := Reading.exists_reaches start
  exact ⟨_, after, reaches, done, Reading.isWhole_unplaced.mpr whole, (Level.content_expr ..).symm⟩

/-- A text that spells an expression is read as this expression, unless it lies too deep. -/
theorem Spells.read {text : List Char} {expr : Expr} (spells : Spells text expr) :
    Expr.read text = .ok expr ∨ IsTooDeep text := by
  obtain ⟨form, after, reaches, done, whole, rfl⟩ := spells
  obtain ⟨final, rfl, run⟩ := reaches.exists_runFrom Reading.unplaced_initial
  have stays : final.runFrom after = .ok final := Reading.runFrom_of_isDone done
  rw [stays] at run
  have finish : Expr.read text = final.finish text.length := by
    have start : Reading.run 0 0 text .initial = .ok final := run
    rw [Expr.read, start]
    rfl
  rw [Reading.isWhole_unplaced] at whole
  by_cases shallow : (final.level.content text.length).spine.fault? = none
  · refine .inl (finish.trans (Reading.finish_eq_ok_iff.mpr ⟨whole, shallow, ?_⟩))
    exact Level.content_expr ..
  · obtain ⟨span, deep⟩ := whole.exists_nesting shallow
    exact .inr ⟨span, finish.trans deep⟩

end TextTemplate
