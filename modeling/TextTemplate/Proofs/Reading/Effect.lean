import TextTemplate.Proofs.Reading.Move

/-!
# What moves do to the state of the reading

A move does the same to two states that differ in places only. It does the same, too, if more groups
are open around: only the closing of a group that the reading has not opened itself makes a
difference. -/

namespace TextTemplate

namespace Reading

/-- The state with more groups open around. -/
def within (base : List OpenGroup) (reading : Reading) : Reading :=
  { reading with groups := reading.groups ++ base }

theorem within_nil (reading : Reading) : reading.within [] = reading := by
  rw [within, List.append_nil]

theorem unplaced_within (base : List OpenGroup) (reading : Reading) :
    (reading.within base).unplaced = reading.unplaced.within (base.map (·.unplaced)) := by
  simp [within, unplaced]

/-! ## Places -/

variable {reading next : Reading}

private theorem isSome_lookup_unplaced (names : List (String × Span)) (name : String) :
    ((names.map fun (name, _) => (name, (default : Span))).lookup name).isSome =
      (names.lookup name).isSome := by
  induction names with
  | nil => rfl
  | cons entry names ih =>
    rw [List.map_cons, List.lookup_cons, List.lookup_cons]
    cases name == entry.1 with
    | true => rfl
    | false => exact ih

private theorem unplaced_openPlain (kind : GroupKind) (flags : Flags) (reading : Reading) :
    (reading.unplaced.openPlain kind flags).unplaced = (reading.openPlain kind flags).unplaced := by
  simp [openPlain, openGroup, unplaced, OpenGroup.unplaced, Function.comp_def]

private theorem unplaced_opened? (opening : Opening) (reading : Reading) :
    (reading.unplaced.opened? opening).map unplaced = (reading.opened? opening).map unplaced := by
  cases opening with
  | capture named =>
    rcases named with _ | ⟨name, span⟩
    · exact congrArg some (unplaced_openPlain ..)
    · have same : (reading.unplaced.names.lookup name).isSome =
          (reading.names.lookup name).isSome := isSome_lookup_unplaced ..
      simp only [opened?, same]
      split
      · rfl
      · exact congrArg some <| unplaced_openPlain (.named name) reading.flags
          { reading with names := (name, default) :: reading.names }
  | plain flags => exact congrArg some (unplaced_openPlain ..)
  | directive flags =>
    simp [opened?, add, unplaced, Level.add, Level.unplaced, Function.comp_def]

private theorem unplaced_closed? (reading : Reading) :
    reading.unplaced.closed?.map unplaced = reading.closed?.map unplaced := by
  unfold closed?
  cases found : reading.groups with
  | nil => simp [unplaced, found]
  | cons group groups =>
    have content := reading.level.content_expr 0
    simp [unplaced, found, OpenGroup.unplaced, Level.add, Level.unplaced, content, Item.unplaced,
      Function.comp_def]

private theorem unplaced_repeated? (count : Count) (marked : Bool) (reading : Reading) :
    (reading.unplaced.repeated? count marked).map unplaced =
      (reading.repeated? count marked).map unplaced := by
  unfold repeated?
  rcases found : reading.level.items with _ | ⟨⟨_ | expr, start, spine⟩, items⟩
  · simp [unplaced, Level.unplaced, found]
  · simp [unplaced, Level.unplaced, found, Item.unplaced]
  · simp [unplaced, Level.unplaced, found, Item.unplaced, Function.comp_def]

/-- Places in what has been read before make no difference to a move. -/
theorem unplaced_effect? (move : Move) (reading : Reading) :
    (move.effect? reading.unplaced).map unplaced = (move.effect? reading).map unplaced := by
  cases move with
  | opening opening => exact unplaced_opened? ..
  | closing => exact unplaced_closed? _
  | bar =>
    have level := reading.level.unplaced_nextBranch 0 0
    simp [Move.effect?, unplaced, level, Function.comp_def]
  | repetition count marked => exact unplaced_repeated? ..
  | atom sign =>
    simp only [Move.effect?, Option.map_some, unplaced_add, unplaced_unplaced]
    rfl
  | brackets negated members => simp [Move.effect?, unplaced, Function.comp_def]
  | inside form =>
    simp only [Move.effect?, Option.map_some, Option.some.injEq]
    rw [unplaced_stepped, unplaced_unplaced, ← unplaced_stepped]

/-- Places in what has been read before make no difference to the signs that can follow. -/
theorem moves_unplaced (reading form : Reading) :
    reading.unplaced.Moves form = reading.Moves form := by
  have rule (move : Move) : move.rule reading.unplaced = move.rule reading := by
    simp [Move.rule, unplaced, Function.comp_def]
  funext cursor after
  simp only [Moves, rule, unplaced_effect?]

/-! ## Groups around -/

private theorem opened?_within (base : List OpenGroup) (opening : Opening) (reading : Reading) :
    (reading.within base).opened? opening = (reading.opened? opening).map (within base) := by
  cases opening with
  | capture named =>
    rcases named with _ | ⟨name, span⟩
    · rfl
    · by_cases used : (reading.names.lookup name).isSome = true
      · have inner : reading.opened? (.capture (some (name, span))) = none := if_pos used
        rw [inner]
        exact if_pos used
      · have inner : reading.opened? (.capture (some (name, span))) = some (openPlain (.named name)
            reading.flags { reading with names := (name, default) :: reading.names }) := if_neg used
        rw [inner]
        exact if_neg used
  | plain flags => rfl
  | directive flags => rfl

private theorem repeated?_within (base : List OpenGroup) (count : Count) (marked : Bool)
    (reading : Reading) :
    (reading.within base).repeated? count marked =
      (reading.repeated? count marked).map (within base) := by
  simp only [repeated?, within]
  split <;> rfl

/-- A move does the same inside more groups, unless it closes one of those. -/
theorem effect?_within {move : Move} (own : move = .closing → reading.groups ≠ [])
    (base : List OpenGroup) :
    move.effect? (reading.within base) = (move.effect? reading).map (within base) := by
  cases move with
  | opening opening => exact opened?_within ..
  | closing =>
    obtain ⟨group, groups, found⟩ := List.exists_cons_of_ne_nil (own rfl)
    simp [Move.effect?, closed?, within, found]
  | bar => rfl
  | repetition count marked => exact repeated?_within ..
  | atom sign => rfl
  | brackets negated members => rfl
  | inside form =>
    simp only [Move.effect?, stepped, within]
    split <;> rfl

/-- A move that can be made can be made inside more groups. -/
theorem Moves.within {cursor after : Cursor} (moves : reading.Moves next cursor after)
    {base : List OpenGroup} (unplacedBase : base.map (·.unplaced) = base) :
    (reading.within base).Moves (next.within base) cursor after := by
  obtain ⟨move, rule, reached⟩ := moves
  have own : move = .closing → reading.groups ≠ [] := by
    rintro rfl none
    simp [Move.effect?, closed?, none] at reached
  obtain ⟨state, effect, rfl⟩ := Option.map_eq_some_iff.mp reached
  refine ⟨move, rule, ?_⟩
  rw [effect?_within own, effect, Option.map_some, Option.map_some, unplaced_within, unplacedBase]

/-- A move inside more groups can be made by itself, or it closes the innermost one of them. -/
theorem Moves.of_within {cursor after : Cursor} {base : List OpenGroup}
    (unplacedBase : base.map (·.unplaced) = base)
    (moves : (reading.within base).Moves next cursor after) :
    (∃ inner, reading.Moves inner cursor after ∧ next = inner.within base) ∨
      reading.groups = [] ∧ reading.brackets = [] ∧ cursor.peek? = some ')' := by
  obtain ⟨move, rule, reached⟩ := moves
  by_cases own : move = .closing → reading.groups ≠ []
  · rw [effect?_within own] at reached
    obtain ⟨state, effect, rfl⟩ := Option.map_eq_some_iff.mp reached
    obtain ⟨inner, innerEffect, rfl⟩ := Option.map_eq_some_iff.mp effect
    refine .inl ⟨inner.unplaced, ⟨move, rule, by rw [innerEffect, Option.map_some]⟩, ?_⟩
    rw [unplaced_within, unplacedBase]
  · obtain ⟨rfl, none⟩ := Classical.not_imp.mp own
    have out : reading.brackets = [] := by
      cases found : reading.brackets with
      | nil => rfl
      | cons bracket outer => simp [Move.rule, Reading.within, found] at rule
    refine .inr ⟨Classical.not_not.mp none, out, ?_⟩
    simp only [Move.rule, Reading.within, out, List.map_nil] at rule
    exact rule.1

/-! ## Faults that are reported at the end -/

private theorem eq_none_of_orElse {first second : Option Fault}
    (none : (first <|> second) = .none) : first = .none := by
  simp only [Option.orElse_eq_orElse, Option.orElse_eq_or, Option.or_eq_none_iff] at none
  exact none.1

/-- No such fault is forgotten. -/
theorem Moves.late_eq_none {cursor after : Cursor} (moves : reading.Moves next cursor after)
    (none : next.late = none) : reading.late = .none := by
  obtain ⟨move, rule, reached⟩ := moves
  obtain ⟨state, effect, rfl⟩ := Option.map_eq_some_iff.mp reached
  have stateNone : state.late = .none := Fault.unplaced_eq_none_iff.mp none
  cases move with
  | opening opening =>
    simp only [Move.effect?, opened?] at effect
    split at effect
    · cases effect
      exact stateNone
    · split at effect
      · contradiction
      · cases effect
        exact stateNone
    · cases effect
      exact stateNone
    · cases effect
      exact eq_none_of_orElse stateNone
  | closing =>
    simp only [Move.effect?, closed?] at effect
    split at effect
    · contradiction
    · cases effect
      exact stateNone
  | bar =>
    cases effect
    exact stateNone
  | repetition count marked =>
    simp only [Move.effect?, repeated?] at effect
    split at effect
    · cases effect
      exact stateNone
    · contradiction
  | atom sign =>
    cases effect
    exact eq_none_of_orElse stateNone
  | brackets negated members =>
    cases effect
    exact stateNone
  | inside form =>
    cases effect
    have both : (reading.late <|> form.late) = .none := by
      unfold stepped at stateNone
      split at stateNone
      · exact stateNone
      · exact eq_none_of_orElse stateNone
    exact eq_none_of_orElse both

end Reading

end TextTemplate
