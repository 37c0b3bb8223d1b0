import TextTemplate.Proofs.Reading.Reaches

/-!
# Reading in front of a closing parenthesis

A text that is read to its end can be read in front of a closing parenthesis, inside more groups: the
reading gets to the parenthesis, or the parenthesis falls into a comment that the text ends with.
The other way round, a reading that gets to a parenthesis that closes a group around can be made
inside the text, up to that parenthesis. -/

namespace TextTemplate.Reading

/-- In front of any closing text, and inside any groups, the reading gets to that text. -/
def StopsBefore (start : Reading) (cursor : Cursor) (form : Reading) : Prop :=
  ∀ behind outer base, IsClosing behind → cursor.Extends behind outer →
    base.map (·.unplaced) = base → ∃ place,
      Reaches (start.within base) outer (form.within base) place ∧
        (place.skip form.flags.extended).rest = behind

/-- In front of any closing text of one line, and inside any groups, the reading takes that text for
the rest of a comment. -/
def RunsOver (start : Reading) (cursor : Cursor) (form : Reading) : Prop :=
  ∀ behind outer base, IsClosing behind → '\n' ∉ behind → cursor.Extends behind outer →
    base.map (·.unplaced) = base → ∃ place,
      Reaches (start.within base) outer (form.within base) place ∧ form.IsDone place

variable {reading middle form : Reading} {cursor between after : Cursor}

private theorem ahead_move (moves : reading.Moves middle (cursor.skip reading.flags.extended) between) :
    cursor.Ahead between fun outer place =>
      reading.Moves middle (outer.skip reading.flags.extended) place :=
  (Rule.ahead_comp (Cursor.ahead_skip ..) moves.ahead moves.leadsTo).mono
    fun _ _ ⟨_, same, read⟩ => same ▸ read

/-- A text that can be read to its end can be read in front of any closing text, unless it ends with
a comment that goes on there. -/
theorem Reaches.stopsBefore_or_runsOver (reaches : Reaches reading cursor form after)
    (done : form.IsDone after) : reading.StopsBefore cursor form ∨ reading.RunsOver cursor form := by
  induction reaches with
  | stay reading cursor =>
    rcases Cursor.ahead_skip reading.flags.extended cursor with same | ⟨_, ends⟩
    · refine .inl fun behind outer base closing extend _ => ⟨outer, .stay .., ?_⟩
      obtain ⟨_, rfl, extendSkip⟩ := same behind outer closing extend
      rw [extendSkip.rest_eq, done, List.nil_append]
    · refine .inr fun behind outer base closing oneLine extend _ => ⟨outer, .stay .., ?_⟩
      obtain ⟨_, rfl, nothing⟩ := ends behind outer closing oneLine extend
      exact nothing
  | move moves rest ih =>
    rcases ahead_move moves with same | ⟨none, ends⟩
    · rcases ih done with stops | runs
      · refine .inl fun behind outer base closing extend framed => ?_
        obtain ⟨outerBetween, outerMoves, extendBetween⟩ := same behind outer closing extend
        obtain ⟨place, outerRest, atText⟩ := stops behind _ base closing extendBetween framed
        exact ⟨place, .move (outerMoves.within framed) outerRest, atText⟩
      · refine .inr fun behind outer base closing oneLine extend framed => ?_
        obtain ⟨outerBetween, outerMoves, extendBetween⟩ := same behind outer closing extend
        obtain ⟨place, outerRest, isDone⟩ := runs behind _ base closing oneLine extendBetween framed
        exact ⟨place, .move (outerMoves.within framed) outerRest, isDone⟩
    · obtain ⟨rfl, rfl⟩ := rest.eq_of_rest_eq_nil none
      refine .inr fun behind outer base closing oneLine extend framed => ?_
      obtain ⟨place, outerMoves, nothing⟩ := ends behind outer closing oneLine extend
      refine ⟨place, .move (outerMoves.within framed) (.stay ..), ?_⟩
      rw [IsDone, Cursor.rest_skip, nothing, List.drop_nil]

/-! ## The way back -/

/-- A reading inside groups that ends outside of all groups closes the innermost one of them
somewhere; up to there it can be made without them. -/
theorem Reaches.exists_closing {base : List OpenGroup} (framed : base.map (·.unplaced) = base)
    (some : base ≠ []) (reaches : Reaches (reading.within base) cursor form after)
    (noGroup : form.groups = []) :
    ∃ inner place, Reaches reading cursor inner place ∧
      Reaches (inner.within base) place form after ∧ inner.groups = [] ∧ inner.brackets = [] ∧
      (place.skip inner.flags.extended).peek? = .some ')' := by
  generalize isWithin : reading.within base = start at reaches
  induction reaches generalizing reading with
  | stay =>
    subst isWithin
    exact absurd (List.append_eq_nil_iff.mp noGroup).2 some
  | move moves rest ih =>
    subst isWithin
    rcases moves.of_within framed with ⟨inner, innerMoves, rfl⟩ | ⟨noGroup, out, found⟩
    · obtain ⟨last, place, innerReaches, outerReaches, closes⟩ := ih noGroup rfl
      exact ⟨last, place, .move innerMoves innerReaches, outerReaches, closes⟩
    · exact ⟨reading, _, .stay .., .move moves rest, noGroup, out, found⟩

private theorem length_add_owed_le (reaches : Reaches reading cursor form after)
    (out : form.brackets = []) : after.rest.length + reading.owed ≤ cursor.rest.length := by
  cases reaches with
  | stay => simp [owed, out]
  | move moves rest =>
    have length := rest.leadsTo.length_le
    have shorter := moves.shorter
    have skipped := (cursor.leadsTo_skip reading.flags.extended).length_le
    unfold owed
    split <;> omega

/-- Behind an opening brace there is something to be read before the next sign. -/
private theorem length_lt_of_brace (reaches : Reaches reading cursor form after)
    (brace : cursor.peek? = some '\x7b') (out : reading.brackets = [])
    (found : (after.skip form.flags.extended).peek? = some ')') :
    after.rest.length < (cursor.advance reading.flags.extended).rest.length := by
  have here (extended : Bool) : cursor.skip extended = cursor :=
    Cursor.skip_of_peek? extended brace (by decide) (by decide)
  cases reaches with
  | stay =>
    rw [here, brace] at found
    contradiction
  | move moves rest =>
    rw [here] at moves
    obtain ⟨move, rule, _⟩ := moves
    have outside : move.rule reading = move.outside reading.flags := by
      unfold Move.rule
      rw [out, List.map_nil]
    rw [outside] at rule
    have starts := Move.startsWith_of_outside brace rule
    cases move with
    | repetition count marked =>
      exact Nat.lt_of_le_of_lt rest.leadsTo.length_le (Count.length_lt_of_repetition brace rule.2)
    | _ => simp [Move.StartsWith, Move.special] at starts

/-- What is read up to a parenthesis in a longer text can be read inside a shorter one, if the
parenthesis stands there or right behind it. -/
theorem Reaches.back {behind : List Char} {inner outer place : Cursor} (closing : IsClosing behind)
    (extend : inner.Extends behind outer) (reaches : Reaches reading outer form place)
    (out : form.brackets = []) (found : (place.skip form.flags.extended).peek? = some ')')
    (enough : behind.length ≤ (place.skip form.flags.extended).rest.length) :
    ∃ after, Reaches reading inner form after ∧
      (after.skip form.flags.extended).Extends behind (place.skip form.flags.extended) := by
  induction reaches generalizing inner with
  | stay => exact ⟨inner, .stay .., Cursor.skip_back _ extend enough⟩
  | @move reading middle form outer between place moves rest ih =>
    have length := (place.leadsTo_skip form.flags.extended).length_le
    have owed := length_add_owed_le rest out
    have shorter := moves.shorter
    have extendSkip := Cursor.skip_back reading.flags.extended extend (by omega)
    obtain ⟨after, innerMoves, extendBetween⟩ := moves.back closing extendSkip (by omega)
      fun brace sameFlags outMiddle => by
        have longer := length_lt_of_brace rest brace outMiddle found
        rw [sameFlags] at longer
        omega
    obtain ⟨last, innerRest, extendLast⟩ := ih extendBetween out found enough
    exact ⟨last, .move innerMoves innerRest, extendLast⟩

end TextTemplate.Reading
