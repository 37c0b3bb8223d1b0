import TextTemplate.Proofs.Reading.Effect

/-!
# Moves in a text and in a longer one

A move goes forwards. In front of any closing text it can be made as well, up to what is skipped at
its end. A move that can be made in the longer text can be made in the shorter one if it leaves
enough of the text behind. -/

namespace TextTemplate

open Rule

/-- A step that goes on inside brackets leaves some open. -/
theorem Bracket.brackets_ne_nil {flags : Flags} {bracket : Bracket} {outer : List Bracket}
    {form : Progress} {cursor after : Cursor}
    (read : goesOnInside flags bracket outer form cursor after) : form.brackets ≠ [] := by
  rcases read with ⟨_, rfl, _⟩ | ⟨_, rfl, _⟩ | ⟨_, ⟨_, rfl⟩, _⟩ | ⟨_, rfl, _⟩ <;>
    exact List.cons_ne_nil _ _

namespace Reading

/-- The number of characters that have to follow: open brackets have to be closed. -/
def owed (reading : Reading) : Nat := if reading.brackets = [] then 0 else 1

variable {reading form : Reading} {cursor after : Cursor}

private theorem brackets_unplaced_stepped (step : Bracket.Progress) (reading : Reading) :
    (reading.stepped step).unplaced.brackets = step.brackets.map (·.unplaced) := by
  unfold stepped
  dsimp only
  split <;> rfl

/-- A rule that always takes some character makes the move, wherever it holds. -/
def Moves.ByRule (reading form : Reading) (cursor after : Cursor) : Prop :=
  ∃ rule : Rule, rule.IsTaking form.owed ∧ rule cursor after ∧
    ∀ cursor after, rule cursor after → reading.Moves form cursor after

section Cases

variable {move : Move} (reached : (move.effect? reading).map unplaced = some form)

include reached

private theorem Moves.ByRule.of_part {part whole : Rule} (same : move.rule reading = whole)
    (isTaking : part.IsTaking form.owed) (inside : ∀ cursor after, part cursor after → whole cursor after)
    (read : part cursor after) : Moves.ByRule reading form cursor after :=
  ⟨part, isTaking, read, fun cursor after read => ⟨move, same ▸ inside cursor after read, reached⟩⟩

private theorem Moves.byRule_inside {bracket : Bracket} {outer : List Bracket}
    (found : reading.brackets.map (·.unplaced) = bracket :: outer)
    (rule : move.rule reading cursor after) : Moves.ByRule reading form cursor after := by
  cases move with
  | inside step =>
    have same : (Move.inside step).rule reading = either (bracket.closes reading.flags outer step)
        (bracket.goesOnInside reading.flags outer step) := by
      unfold Move.rule
      rw [found]
    rw [same] at rule
    rcases rule with read | read
    · exact .of_part reached same (Bracket.isTaking_closes ..) (fun _ _ => .inl) read
    · have owed : form.owed = 0 + 1 := by
        refine if_neg fun none => Bracket.brackets_ne_nil read ?_
        have brackets := congrArg brackets (Option.some.inj reached)
        rw [none, brackets_unplaced_stepped, List.map_eq_nil_iff] at brackets
        exact brackets
      exact .of_part reached same (owed ▸ Bracket.isTaking_goesOnInside ..) (fun _ _ => .inr) read
  | _ => simp only [Move.rule, found] at rule

end Cases

/-- A move is made by a local rule, or it is a border in front of an opening brace. -/
theorem Moves.cases (moves : reading.Moves form cursor after) :
    Moves.ByRule reading form cursor after ∨
      ∃ sign, Atom.beforeBrace reading.flags.extended sign cursor after ∧
        form.flags = reading.flags ∧ form.brackets = [] ∧
        ∀ cursor after, Atom.beforeBrace reading.flags.extended sign cursor after →
          reading.Moves form cursor after := by
  obtain ⟨move, rule, reached⟩ := moves
  cases found : reading.brackets.map (·.unplaced) with
  | cons bracket outer => exact .inl (Moves.byRule_inside reached found rule)
  | nil =>
    have same : move.rule reading = move.outside reading.flags := by
      unfold Move.rule
      rw [found]
    rw [same] at rule
    cases move with
    | opening opening =>
      exact .inl (.of_part reached same ((Opening.isTaking_opens opening).before _)
        (fun _ _ => id) rule)
    | closing => exact .inl (.of_part reached same (isTaking_sign ')') (fun _ _ => id) rule)
    | bar => exact .inl (.of_part reached same (isTaking_sign '|') (fun _ _ => id) rule)
    | repetition count marked =>
      exact .inl (.of_part reached same ((Count.isTaking_repetition count marked).before _)
        (fun _ _ => id) rule)
    | brackets negated members =>
      have owed : form.owed = 0 + 1 := by
        cases Option.some.inj reached
        rfl
      exact .inl (.of_part reached same (owed ▸ (Bracket.isTaking_opens negated members).before _)
        (fun _ _ => id) rule)
    | inside => exact rule.elim
    | atom sign =>
      rcases rule with read | read
      · exact .inl (.of_part reached same ((Atom.isTaking_atom Atom.ofChar sign).before _)
          (fun _ _ => .inl) read)
      · have out : reading.brackets = [] := List.map_eq_nil_iff.mp found
        cases Option.some.inj reached
        refine .inr ⟨sign, read, rfl, ?_, fun cursor after read => ⟨.atom sign, ?_, rfl⟩⟩
        · simp [unplaced, add, out]
        · rw [same]
          exact .inr read

theorem Moves.leadsTo (moves : reading.Moves form cursor after) : cursor.LeadsTo after := by
  rcases moves.cases with ⟨rule, isTaking, read, _⟩ | ⟨_, read, _⟩
  · exact isTaking.leadsTo read
  · exact Atom.leadsTo_beforeBrace read

theorem Moves.shorter (moves : reading.Moves form cursor after) :
    after.rest.length < cursor.rest.length := by
  rcases moves.cases with ⟨rule, isTaking, read, _⟩ | ⟨_, read, _⟩
  · exact isTaking.shorter read
  · exact Atom.length_lt_of_beforeBrace read

/-- A move can be made in front of any closing text. -/
theorem Moves.ahead (moves : reading.Moves form cursor after) :
    cursor.Ahead after (reading.Moves form) := by
  rcases moves.cases with ⟨rule, isTaking, read, made⟩ | ⟨_, read, _, _, made⟩
  · exact (isTaking.ahead read).mono made
  · exact (Atom.ahead_beforeBrace read).mono made

/-- A move in a longer text can be made in the text itself if it leaves enough of it behind. -/
theorem Moves.back {behind : List Char} {inner outer place : Cursor} (closing : IsClosing behind)
    (extend : inner.Extends behind outer) (moves : reading.Moves form outer place)
    (enough : behind.length + form.owed ≤ place.rest.length)
    (enoughBehind : place.peek? = some '\x7b' → form.flags = reading.flags → form.brackets = [] →
      behind.length < (place.advance reading.flags.extended).rest.length) :
    ∃ after, reading.Moves form inner after ∧ after.Extends behind place := by
  rcases moves.cases with ⟨rule, isTaking, read, made⟩ | ⟨_, read, flags, out, made⟩
  · obtain ⟨after, innerRead, extendAfter⟩ := isTaking.back closing extend read enough
    exact ⟨after, made _ _ innerRead, extendAfter⟩
  · have brace : place.peek? = some '\x7b' := by
      obtain ⟨_, _, _, _, _, nameless, rfl⟩ := read
      exact nameless.1
    obtain ⟨after, innerRead, extendAfter⟩ :=
      Atom.back_beforeBrace closing extend read (enoughBehind brace flags out)
    exact ⟨after, made _ _ innerRead, extendAfter⟩

end Reading

end TextTemplate
