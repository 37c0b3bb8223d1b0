import TextTemplate.Expr.Cursor

/-!
# Places in a text and in a longer one

Reading moves forwards. A text may be read by itself or in front of another text: as long as the
reading stays inside the shorter text, it sees the same characters and moves in the same way. Only
at its end can the readings part, because what is to be skipped may go on in the text behind. -/

namespace TextTemplate

/-- A text that may stand behind an expression in a group: the parenthesis that closes it comes
first, or nothing is there. -/
def IsClosing (behind : List Char) : Prop := ∀ char ∈ behind.head?, char = ')'

namespace Cursor

/-- The second place lies in the text behind the first one, or it is the first one. -/
def LeadsTo (cursor after : Cursor) : Prop :=
  ∃ taken, cursor.rest = taken ++ after.rest ∧ after.offset = cursor.offset + taken.length

/-- What the second place stands before is what the first one stands before, and another text behind
that. -/
def Extends (behind : List Char) (inner outer : Cursor) : Prop :=
  outer.rest = inner.rest ++ behind

/-- One of the places is known to stand before the end of the inner text. -/
def IsInside (behind : List Char) (inner outer : Cursor) : Prop :=
  inner.rest ≠ [] ∨ behind.length < outer.rest.length

/-- A reading leads from one place of a text to another one. In front of any closing text it does the
same; or else it comes to the end, and then it does so in front of all closing texts of one line,
which it takes for the rest of a comment. -/
def Ahead (cursor after : Cursor) (reads : Cursor → Cursor → Prop) : Prop :=
  (∀ behind outer, IsClosing behind → cursor.Extends behind outer →
      ∃ place, reads outer place ∧ after.Extends behind place) ∨
    (after.rest = [] ∧ ∀ behind outer, IsClosing behind → '\n' ∉ behind →
      cursor.Extends behind outer → ∃ place, reads outer place ∧ place.rest = [])

section Moves

variable {cursor middle after : Cursor}

theorem LeadsTo.refl (cursor : Cursor) : cursor.LeadsTo cursor := ⟨[], rfl, rfl⟩

theorem LeadsTo.trans (first : cursor.LeadsTo middle) (second : middle.LeadsTo after) :
    cursor.LeadsTo after := by
  obtain ⟨taken, split, place⟩ := first
  obtain ⟨more, splitMore, placeMore⟩ := second
  refine ⟨taken ++ more, by rw [split, splitMore, List.append_assoc], ?_⟩
  rw [placeMore, place, List.length_append, Nat.add_assoc]

theorem LeadsTo.length_le (leads : cursor.LeadsTo after) :
    after.rest.length ≤ cursor.rest.length := by
  obtain ⟨taken, split, _⟩ := leads
  rw [split, List.length_append]
  exact Nat.le_add_left ..

private theorem leadsTo_dropFrom (count offset : Nat) (text : List Char) :
    LeadsTo ⟨offset, text⟩ (dropFrom count offset text) := by
  induction count generalizing offset text with
  | zero => exact .refl _
  | succ count ih =>
    cases text with
    | nil => exact .refl _
    | cons char text =>
      have step : LeadsTo ⟨offset, char :: text⟩ ⟨offset + 1, text⟩ := ⟨[char], rfl, rfl⟩
      exact step.trans (ih ..)

theorem leadsTo_drop (cursor : Cursor) (count : Nat) : cursor.LeadsTo (cursor.drop count) :=
  leadsTo_dropFrom ..

theorem leadsTo_next (cursor : Cursor) : cursor.LeadsTo cursor.next := cursor.leadsTo_drop 1

@[simp] theorem rest_drop (cursor : Cursor) (count : Nat) :
    (cursor.drop count).rest = cursor.rest.drop count := by
  have general : ∀ offset text, (dropFrom count offset text).rest = text.drop count := by
    induction count with
    | zero => exact fun _ _ => rfl
    | succ count ih =>
      intro offset text
      cases text with
      | nil => rfl
      | cons char text => exact ih ..
  exact general ..

@[simp] theorem peek?_cons (offset : Nat) (char : Char) (text : List Char) :
    peek? ⟨offset, char :: text⟩ = some char := rfl

@[simp] theorem next_cons (offset : Nat) (char : Char) (text : List Char) :
    next ⟨offset, char :: text⟩ = ⟨offset + 1, text⟩ := rfl

@[simp] theorem rest_next (cursor : Cursor) : cursor.next.rest = cursor.rest.tail := by
  rw [next, rest_drop, List.drop_one]

/-- The number of characters to be skipped at the start of a text. -/
def blanks (extended : Bool) (text : List Char) : Nat :=
  if extended then blankLength false text else 0

@[simp] theorem rest_skip (extended : Bool) (cursor : Cursor) :
    (cursor.skip extended).rest = cursor.rest.drop (blanks extended cursor.rest) := by
  cases extended
  · rfl
  · exact rest_drop ..

theorem leadsTo_skip (extended : Bool) (cursor : Cursor) :
    cursor.LeadsTo (cursor.skip extended) := by
  cases extended with
  | false => exact .refl _
  | true => exact cursor.leadsTo_drop _

theorem leadsTo_advance (extended : Bool) (cursor : Cursor) :
    cursor.next.LeadsTo (cursor.advance extended) :=
  leadsTo_skip ..

theorem length_next_lt (some : cursor.rest ≠ []) :
    cursor.next.rest.length < cursor.rest.length := by
  rw [rest_next, List.length_tail]
  exact Nat.sub_lt (List.length_pos_iff.mpr some) Nat.zero_lt_one

theorem length_advance_lt (extended : Bool) (some : cursor.rest ≠ []) :
    (cursor.advance extended).rest.length < cursor.rest.length :=
  Nat.lt_of_le_of_lt (leadsTo_advance ..).length_le (length_next_lt some)

private theorem leadsTo_takeFrom (extended : Bool) (keep : Char → Bool) (skipped offset : Nat)
    (text : List Char) :
    LeadsTo ⟨offset, text⟩ (takeFrom extended keep skipped offset text).2 := by
  induction text generalizing skipped offset with
  | nil => cases skipped <;> exact .refl _
  | cons char text ih =>
    have step : LeadsTo ⟨offset, char :: text⟩ ⟨offset + 1, text⟩ := ⟨[char], rfl, rfl⟩
    cases skipped with
    | succ skipped => exact step.trans (ih ..)
    | zero =>
      unfold takeFrom
      split
      · exact step.trans (ih ..)
      · exact .refl _

theorem leadsTo_takeWhile (extended : Bool) (keep : Char → Bool) (cursor : Cursor) :
    cursor.LeadsTo (cursor.takeWhile extended keep).2 :=
  leadsTo_takeFrom ..

theorem LeadsTo.ne_nil (leads : cursor.LeadsTo after) (goesOn : after.rest ≠ []) :
    cursor.rest ≠ [] := by
  rw [← List.length_pos_iff] at goesOn ⊢
  exact Nat.lt_of_lt_of_le goesOn leads.length_le

theorem ne_nil_of_peek? {char : Char} (found : cursor.peek? = some char) : cursor.rest ≠ [] := by
  intro nothing
  rw [peek?, nothing] at found
  contradiction

end Moves

/-! ## Reading in front of another text -/

section Extends

variable {behind : List Char} {inner outer : Cursor}

theorem Extends.rest_eq (extend : inner.Extends behind outer) :
    outer.rest = inner.rest ++ behind := extend

theorem Extends.length_eq (extend : inner.Extends behind outer) :
    outer.rest.length = inner.rest.length + behind.length := by
  rw [extend.rest_eq, List.length_append]

theorem Extends.ne_nil (extend : inner.Extends behind outer)
    (inside : inner.IsInside behind outer) : inner.rest ≠ [] := by
  intro nothing
  have length := extend.length_eq
  rcases inside with some | longer
  · exact some nothing
  · rw [nothing, List.length_nil] at length
    omega

theorem Extends.outer_ne_nil (extend : inner.Extends behind outer) (goesOn : inner.rest ≠ []) :
    outer.rest ≠ [] := by
  rw [extend.rest_eq]
  exact List.append_ne_nil_of_left_ne_nil goesOn _

theorem Extends.peek? (extend : inner.Extends behind outer) (some : inner.rest ≠ []) :
    outer.peek? = inner.peek? := by
  obtain ⟨char, rest, split⟩ := List.exists_cons_of_ne_nil some
  rw [Cursor.peek?, Cursor.peek?, extend.rest_eq, split]
  rfl

/-- At the end of the inner text only a closing parenthesis can be seen, in front of a closing
text. -/
theorem Extends.peek?_eq_some_iff (extend : inner.Extends behind outer)
    (closing : IsClosing behind) {char : Char} (different : char ≠ ')') :
    outer.peek? = some char ↔ inner.peek? = some char := by
  rw [Cursor.peek?, Cursor.peek?, extend.rest_eq]
  cases inner.rest with
  | cons => rfl
  | nil =>
    simp only [List.nil_append, List.head?_nil, reduceCtorEq, iff_false]
    exact fun found => different (closing char found)

theorem Extends.drop (extend : inner.Extends behind outer) {count : Nat}
    (enough : count ≤ inner.rest.length) :
    (inner.drop count).Extends behind (outer.drop count) := by
  rw [Extends, rest_drop, rest_drop, extend.rest_eq, List.drop_append_of_le_length enough]

theorem Extends.next (extend : inner.Extends behind outer) (some : inner.rest ≠ []) :
    inner.next.Extends behind outer.next :=
  extend.drop (List.length_pos_iff.mpr some)

theorem Ahead.mono {cursor after : Cursor} {reads readsToo : Cursor → Cursor → Prop}
    (ahead : cursor.Ahead after reads)
    (more : ∀ outer place, reads outer place → readsToo outer place) :
    cursor.Ahead after readsToo := by
  rcases ahead with same | ⟨none, ends⟩
  · refine .inl fun behind outer closing extend => ?_
    obtain ⟨place, read, extendAfter⟩ := same behind outer closing extend
    exact ⟨place, more outer place read, extendAfter⟩
  · refine .inr ⟨none, fun behind outer closing oneLine extend => ?_⟩
    obtain ⟨place, read, nothing⟩ := ends behind outer closing oneLine extend
    exact ⟨place, more outer place read, nothing⟩

end Extends

/-! ## What is skipped -/

section Skip

variable {behind : List Char} {inner outer : Cursor}

private theorem blankLength_cons (inComment : Bool) (char : Char) :
    (∃ commented, ∀ text, blankLength inComment (char :: text) = blankLength commented text + 1) ∨
      ∀ text, blankLength inComment (char :: text) = 0 := by
  cases inComment with
  | true => exact .inl ⟨char ≠ '\n', fun _ => rfl⟩
  | false =>
    by_cases white : Unicode.isWhiteSpace char = true
    · exact .inl ⟨false, fun _ => by rw [blankLength, if_pos white]⟩
    · by_cases sign : char = '#'
      · exact .inl ⟨true, fun _ => by rw [blankLength, if_neg white, if_pos sign]⟩
      · exact .inr fun _ => by rw [blankLength, if_neg white, if_neg sign]

/-- What is to be skipped ends inside a text, or it goes on, maybe as a comment, in whatever stands
behind the text. -/
private theorem blankLength_append (inComment : Bool) (text : List Char) :
    (text.drop (blankLength inComment text) ≠ [] ∧
        ∀ behind, blankLength inComment (text ++ behind) = blankLength inComment text) ∨
      (text.drop (blankLength inComment text) = [] ∧ ∃ commented, ∀ behind,
        blankLength inComment (text ++ behind) = text.length + blankLength commented behind) := by
  induction text generalizing inComment with
  | nil => exact .inr ⟨rfl, inComment, fun behind => by simp⟩
  | cons char text ih =>
    rcases blankLength_cons inComment char with ⟨commented, step⟩ | nothing
    · rcases ih commented with ⟨some, same⟩ | ⟨none, later, length⟩
      · refine .inl ⟨by rw [step]; exact some, fun behind => ?_⟩
        rw [List.cons_append, step, same, step]
      · refine .inr ⟨by rw [step]; exact none, later, fun behind => ?_⟩
        rw [List.cons_append, step, length, List.length_cons, Nat.add_right_comm]
    · exact .inl ⟨by simp [nothing], fun behind => by rw [List.cons_append, nothing, nothing]⟩

private theorem blankLength_of_isClosing (closing : IsClosing behind) :
    blankLength false behind = 0 := by
  cases behind with
  | nil => rfl
  | cons char behind =>
    have parenthesis : char = ')' := closing char rfl
    subst parenthesis
    have white : Unicode.isWhiteSpace ')' = false := by decide
    simp [blankLength, white]

private theorem blankLength_comment (oneLine : '\n' ∉ behind) :
    blankLength true behind = behind.length := by
  induction behind with
  | nil => rfl
  | cons char behind ih =>
    rw [List.mem_cons, not_or] at oneLine
    have different : decide (char ≠ '\n') = true := by simpa using Ne.symm oneLine.1
    rw [blankLength, different, ih oneLine.2, List.length_cons]

/-- A sign is not skipped. -/
theorem skip_of_peek? (extended : Bool) {cursor : Cursor} {char : Char}
    (found : cursor.peek? = some char) (white : Unicode.isWhiteSpace char = false)
    (noComment : char ≠ '#') : cursor.skip extended = cursor := by
  obtain ⟨offset, text⟩ := cursor
  obtain ⟨rest, rfl⟩ := List.head?_eq_some_iff.mp found
  cases extended with
  | false => rfl
  | true =>
    have nothing : blankLength false (char :: rest) = 0 := by simp [blankLength, white, noComment]
    simp only [skip, if_true, nothing]
    rfl

/-- What is to be skipped ends inside a text, or something at the start of whatever stands behind the
text may have to be skipped too. -/
private theorem blanks_append (extended : Bool) (text : List Char) :
    (text.drop (blanks extended text) ≠ [] ∧
        ∀ behind, blanks extended (text ++ behind) = blanks extended text) ∨
      (text.drop (blanks extended text) = [] ∧ ∃ inComment, ∀ behind,
        blanks extended (text ++ behind) =
          text.length + if extended then blankLength inComment behind else 0) := by
  cases extended with
  | true => exact blankLength_append false text
  | false =>
    cases text with
    | nil => exact .inr ⟨rfl, false, fun _ => rfl⟩
    | cons => exact .inl ⟨by simp [blanks], fun _ => rfl⟩

private theorem skip_cases (extended : Bool) (inner : Cursor) :
    ((inner.skip extended).rest ≠ [] ∧ ∀ behind outer, inner.Extends behind outer →
        (inner.skip extended).Extends behind (outer.skip extended)) ∨
      ((inner.skip extended).rest = [] ∧ ∃ inComment, ∀ behind outer, inner.Extends behind outer →
        (outer.skip extended).rest =
          behind.drop (if extended then blankLength inComment behind else 0)) := by
  simp only [Extends, rest_skip]
  rcases blanks_append extended inner.rest with ⟨some, same⟩ | ⟨none, inComment, length⟩
  · refine .inl ⟨some, fun behind outer extend => ?_⟩
    rw [extend, same, List.drop_append_of_le_length]
    exact Nat.le_of_lt (List.length_lt_of_drop_ne_nil some)
  · refine .inr ⟨none, inComment, fun behind outer extend => ?_⟩
    rw [extend, length, List.drop_length_add_append]

/-- What is to be skipped stops at the same place in front of any closing text, or it stops at the
end in front of all texts of one line. -/
theorem ahead_skip (extended : Bool) (inner : Cursor) :
    inner.Ahead (inner.skip extended) fun outer place => place = outer.skip extended := by
  rcases skip_cases extended inner with ⟨_, same⟩ | ⟨none, inComment, rest⟩
  · exact .inl fun behind outer _ extend => ⟨_, rfl, same behind outer extend⟩
  · cases extended with
    | false => exact .inl fun _ outer _ extend => ⟨_, rfl, extend⟩
    | true =>
      cases inComment with
      | false =>
        refine .inl fun behind outer closing extend => ⟨_, rfl, ?_⟩
        rw [Extends, rest behind outer extend, none, if_pos rfl, blankLength_of_isClosing closing]
        rfl
      | true =>
        refine .inr ⟨none, fun behind outer _ oneLine extend => ⟨_, rfl, ?_⟩⟩
        rw [rest behind outer extend, if_pos rfl, blankLength_comment oneLine, List.drop_length]

/-- If the skipping has not gone beyond the inner text, it stops at the same place in it. -/
theorem skip_back (extended : Bool) (extend : inner.Extends behind outer)
    (enough : behind.length ≤ (outer.skip extended).rest.length) :
    (inner.skip extended).Extends behind (outer.skip extended) := by
  rcases skip_cases extended inner with ⟨_, same⟩ | ⟨none, inComment, rest⟩
  · exact same behind outer extend
  · rw [rest behind outer extend, List.length_drop] at enough
    rw [Extends, rest behind outer extend, none, List.nil_append]
    rcases Nat.eq_zero_or_pos (if extended then blankLength inComment behind else 0) with
      stays | moves
    · rw [stays, List.drop_zero]
    · have nothing : behind = [] := List.length_eq_zero_iff.mp (by omega)
      rw [nothing, List.drop_nil]

theorem Extends.skip (extended : Bool) (extend : inner.Extends behind outer)
    (inside : (inner.skip extended).IsInside behind (outer.skip extended)) :
    (inner.skip extended).Extends behind (outer.skip extended) := by
  rcases inside with some | longer
  · rcases skip_cases extended inner with ⟨_, same⟩ | ⟨none, _⟩
    · exact same behind outer extend
    · contradiction
  · exact skip_back extended extend (Nat.le_of_lt longer)

theorem Extends.advance (extended : Bool) (extend : inner.Extends behind outer)
    (some : inner.rest ≠ [])
    (inside : (inner.advance extended).IsInside behind (outer.advance extended)) :
    (inner.advance extended).Extends behind (outer.advance extended) :=
  (extend.next some).skip extended inside

end Skip

/-! ## What is taken -/

section Take

variable {behind : List Char} {inner outer : Cursor} {keep : Char → Bool}

private theorem length_takeFrom_le (extended : Bool) (keep : Char → Bool) (skipped offset : Nat)
    (text : List Char) :
    (takeFrom extended keep skipped offset text).2.rest.length ≤ text.length - skipped := by
  induction text generalizing skipped offset with
  | nil => cases skipped <;> simp [takeFrom]
  | cons char text ih =>
    cases skipped with
    | succ skipped => simpa [takeFrom] using ih skipped (offset + 1)
    | zero => exact (leadsTo_takeFrom extended keep 0 offset (char :: text)).length_le

private theorem takeFrom_kept (extended : Bool) (offset : Nat) {char : Char} (text : List Char)
    (kept : keep char = true) :
    takeFrom extended keep 0 offset (char :: text) =
      (char :: (takeFrom extended keep (blanks extended text) (offset + 1) text).1,
        (takeFrom extended keep (blanks extended text) (offset + 1) text).2) := by
  rw [takeFrom, if_pos kept]
  rfl

private theorem takeFrom_append (extended : Bool) (skipped offset place : Nat) (text : List Char)
    (inside : IsInside behind (takeFrom extended keep skipped offset text).2
      (takeFrom extended keep skipped place (text ++ behind)).2) :
    (takeFrom extended keep skipped place (text ++ behind)).1 =
        (takeFrom extended keep skipped offset text).1 ∧
      Extends behind (takeFrom extended keep skipped offset text).2
        (takeFrom extended keep skipped place (text ++ behind)).2 := by
  induction text generalizing skipped offset place with
  | nil =>
    rcases inside with some | longer
    · cases skipped <;> simp [takeFrom] at some
    · have bound := length_takeFrom_le extended keep skipped place behind
      rw [List.nil_append] at longer
      omega
  | cons char text ih =>
    cases skipped with
    | succ skipped => exact ih skipped _ _ inside
    | zero =>
      by_cases kept : keep char = true
      · rw [List.cons_append, takeFrom_kept _ _ _ kept, takeFrom_kept _ _ _ kept] at *
        have same : blanks extended (text ++ behind) = blanks extended text := by
          rcases blanks_append extended text with ⟨_, same⟩ | ⟨none, inComment, length⟩
          · exact same behind
          · -- then both takings would have come to the end of the inner text
            have innerBound :=
              length_takeFrom_le extended keep (blanks extended text) (offset + 1) text
            have outerBound := length_takeFrom_le extended keep
              (blanks extended (text ++ behind)) (place + 1) (text ++ behind)
            rw [List.drop_eq_nil_iff] at none
            rw [length behind, List.length_append] at outerBound
            rcases inside with some | longer
            · rw [← List.length_pos_iff] at some
              dsimp only at some
              omega
            · rw [length behind] at longer
              dsimp only at longer
              omega
        rw [same] at inside ⊢
        obtain ⟨taken, extend⟩ := ih _ _ _ inside
        exact ⟨by rw [taken], extend⟩
      · have stops : ∀ place text, takeFrom extended keep 0 place (char :: text) =
            ([], ⟨place, char :: text⟩) := fun place text => by rw [takeFrom, if_neg kept]
        rw [List.cons_append, stops, stops]
        exact ⟨rfl, rfl⟩

private theorem takeFrom_taken (offset : Nat) (text : List Char) :
    text = (takeFrom false keep 0 offset text).1 ++ (takeFrom false keep 0 offset text).2.rest ∧
      (takeFrom false keep 0 offset text).2.offset =
        offset + (takeFrom false keep 0 offset text).1.length := by
  induction text generalizing offset with
  | nil => exact ⟨rfl, rfl⟩
  | cons char text ih =>
    by_cases kept : keep char = true
    · obtain ⟨split, place⟩ := ih (offset + 1)
      have blank : blanks false text = 0 := rfl
      rw [takeFrom_kept _ _ _ kept, blank]
      refine ⟨congrArg (char :: ·) split, place.trans ?_⟩
      rw [List.length_cons, Nat.add_right_comm, Nat.add_assoc]
    · rw [takeFrom, if_neg kept]
      exact ⟨rfl, rfl⟩

/-- What is taken comes before what is left, if nothing is skipped. -/
theorem takeWhile_taken (keep : Char → Bool) (cursor : Cursor) :
    cursor.rest = (cursor.takeWhile false keep).1 ++ (cursor.takeWhile false keep).2.rest ∧
      (cursor.takeWhile false keep).2.offset =
        cursor.offset + (cursor.takeWhile false keep).1.length :=
  takeFrom_taken ..

/-- All characters of a kind are taken, up to one of another kind. -/
theorem takeWhile_append {taken : List Char} (kept : ∀ char ∈ taken, keep char = true)
    {last : Char} (stops : keep last = false) (offset : Nat) (text : List Char) :
    takeWhile false keep ⟨offset, taken ++ last :: text⟩ =
      (taken, ⟨offset + taken.length, last :: text⟩) := by
  unfold takeWhile
  dsimp only
  induction taken generalizing offset with
  | nil => rw [List.nil_append, takeFrom, if_neg (by simp [stops])]; rfl
  | cons char taken ih =>
    rw [List.forall_mem_cons] at kept
    rw [List.cons_append, takeFrom_kept _ _ _ kept.1]
    have rest := ih kept.2 (offset + 1)
    have blank : blanks false (taken ++ last :: text) = 0 := rfl
    rw [blank, rest, List.length_cons, Nat.add_right_comm, Nat.add_assoc]

/-- What is taken from inside the inner text is the same in both texts. -/
theorem Extends.takeWhile (extended : Bool) (extend : inner.Extends behind outer)
    (inside : (inner.takeWhile extended keep).2.IsInside behind (outer.takeWhile extended keep).2) :
    (outer.takeWhile extended keep).1 = (inner.takeWhile extended keep).1 ∧
      (inner.takeWhile extended keep).2.Extends behind (outer.takeWhile extended keep).2 := by
  obtain ⟨place, text⟩ := outer
  obtain rfl : text = inner.rest ++ behind := extend
  exact takeFrom_append extended 0 inner.offset place inner.rest inside

end Take

end Cursor

end TextTemplate
