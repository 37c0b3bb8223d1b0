import TextTemplate.Proofs.Pattern.Validators

/-!
# Which rejection is reported

The values that a match has captured are shown to their validators in template order. The first one
that is not accepted ends this: it is the one that is reported, and the subject does not match. -/

namespace TextTemplate.Compiled

variable {compiled : Compiled}

/-- A placeholder captures a text that is not empty and that its validator does not accept. -/
def Rejects (compiled : Compiled) (fragment? : String → Option String) (subject : String)
    (rejection : Rejection) : Prop :=
  compiled.captured? subject rejection.name = some rejection.value ∧
    ∃ fragment, fragment? rejection.name = some fragment ∧ IsRejectedBy fragment rejection.value

/-- Of the placeholders, whose names are given in template order, this is the first one with a
rejected value. -/
def IsFirstRejected (compiled : Compiled) (names : List String)
    (fragment? : String → Option String) (subject : String) (rejection : Rejection) : Prop :=
  ∃ before later, names = before ++ rejection.name :: later ∧
    compiled.Rejects fragment? subject rejection ∧
    ∀ other ∈ before, ∀ value, ¬ compiled.Rejects fragment? subject ⟨other, value⟩

/-- The first entry that has a property, among those that some names give. -/
private theorem find?_filterMap_eq_some_iff {names : List String} {value? : String → Option String}
    {holds : String × String → Bool} {name value : String} :
    (names.filterMap fun name => (value? name).map fun value => (name, value)).find? holds =
        some (name, value) ↔
      ∃ before later, names = before ++ name :: later ∧
        (value? name = some value ∧ holds (name, value) = true) ∧
        ∀ other ∈ before, ∀ text, value? other = some text → holds (other, text) = false := by
  rw [List.find?_filterMap, Option.bind_eq_some_iff]
  simp only [List.find?_eq_some_iff_append, Option.map_eq_some_iff, Prod.mk.injEq]
  constructor
  · rintro ⟨_, ⟨here, before, later, split, earlier⟩, _, found, rfl, rfl⟩
    refine ⟨before, later, split, ⟨found, by simpa [found] using here⟩, ?_⟩
    intro other member text given
    simpa [given] using earlier other member
  · rintro ⟨before, later, split, ⟨found, here⟩, earlier⟩
    refine ⟨name, ⟨by simpa [found] using here, before, later, split, ?_⟩, value, found, rfl, rfl⟩
    intro other member
    cases given : value? other with
    | none => rfl
    | some text => simp [earlier other member text given]

/-- A match reports the first rejection, and no other. -/
theorem extract_rejection_iff {template : String} {validators defaults : Bindings}
    (compiles : ofTemplate template validators defaults = .ok compiled) (held : Bindings)
    (subject : String) (rejection : Rejection) :
    (compiled.extract held subject).2 = some rejection ↔
      compiled.IsFirstRejected (placeholderNames (tokenize template)) validators.find? subject
        rejection := by
  rw [← names_of_ofTemplate compiles]
  cases found : compiled.expr.captures? subject.toList.toArray with
  | none => simp [extract, IsFirstRejected, Rejects, captured?, found]
  | some captures =>
    have reported : (compiled.extract held subject).2 = compiled.firstRejected?
        (capturedValues subject.toList.toArray captures compiled.names) := by
      simp only [extract, found]
      split
      · next rejected => exact rejected.symm
      · next nothing => exact nothing.symm
    have captured : ∀ name ∈ compiled.names, compiled.captured? subject name =
        capturedValue? subject.toList.toArray captures name := by
      intro name listed
      simp [captured?, listed, found]
    have rejects : ∀ name ∈ compiled.names, ∀ value,
        (compiled.Rejects validators.find? subject ⟨name, value⟩ ↔
          capturedValue? subject.toList.toArray captures name = some value ∧
            (!compiled.accepts name value) = true) := by
      intro name listed value
      rw [Bool.not_eq_true', accepts_eq_false_iff_exists compiles listed, Rejects,
        captured name listed]
    obtain ⟨name, value⟩ := rejection
    rw [reported, firstRejected?, Option.map_eq_some_iff, capturedValues_eq_filterMap]
    simp only [Prod.exists, Rejection.mk.injEq, find?_filterMap_eq_some_iff]
    constructor
    · rintro ⟨_, _, ⟨before, later, split, here, earlier⟩, rfl, rfl⟩
      refine ⟨before, later, split, (rejects _ (by simp [split]) _).mpr here, ?_⟩
      intro other member text rejected
      obtain ⟨given, refused⟩ := (rejects other (by simp [split, member]) text).mp rejected
      rw [earlier other member text given] at refused
      contradiction
    · rintro ⟨before, later, split, here, earlier⟩
      refine ⟨name, value, ⟨before, later, split, (rejects _ (by simp [split]) _).mp here, ?_⟩,
        rfl, rfl⟩
      intro other member text given
      rw [← Bool.not_eq_true]
      intro refused
      exact earlier other member text
        ((rejects other (by simp [split, member]) text).mpr ⟨given, refused⟩)

/-- A match that reports a rejection is none. -/
theorem extract_unmatched {held : Bindings} {subject : String} {rejection : Rejection}
    (rejected : (compiled.extract held subject).2 = some rejection) :
    (compiled.extract held subject).1 = .unmatched := by
  revert rejected
  unfold extract
  dsimp only
  split
  · exact nofun
  · split
    · exact fun _ => rfl
    · exact nofun

end TextTemplate.Compiled
