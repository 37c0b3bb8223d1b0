import TextTemplate.Proofs.Session.Errors

/-!
# The past of a pattern

In a session every pattern has a past of its own: the steps applied to it, and for a saved pattern
those applied until it was saved. The past tells whether the pattern keeps a compiled form: it does
if it has been used with success since its last change. -/

namespace TextTemplate

/-- The change that a step makes to the pattern in use. -/
def Step.change? : Step → Option Change
  | .validator name fragment => some ⟨.validator, name, fragment⟩
  | .default name value => some ⟨.default, name, value⟩
  | _ => none

/-- The changes among some steps. -/
def changesOf (steps : List Step) : List Change := steps.filterMap Step.change?

/-- The steps that the pattern of a session that is in use has gone through, and those that each
saved one has, with the pattern saved last first. -/
structure Pasts where
  current : List Step
  saved : List (List Step)
deriving DecidableEq, Repr

namespace Pasts

def step (pasts : Pasts) : Step → Pasts
  | .save => { pasts with saved := pasts.current :: pasts.saved }
  | .restore =>
    match pasts.saved with
    | [] => pasts
    | current :: saved => ⟨current, saved⟩
  | step => { pasts with current := pasts.current ++ [step] }

def after (steps : List Step) : Pasts := steps.foldl step ⟨[], []⟩

def histories (pasts : Pasts) : Histories := ⟨changesOf pasts.current, pasts.saved.map changesOf⟩

theorem histories_step (pasts : Pasts) (step : Step) :
    (pasts.step step).histories = pasts.histories.step step := by
  obtain ⟨current, saved⟩ := pasts
  cases step with
  | restore => cases saved <;> rfl
  | _ => simp [Pasts.step, Histories.step, histories, changesOf, Step.change?]

/-- The changes in the pasts are the histories of the session. -/
theorem histories_after (steps : List Step) : (after steps).histories = Histories.after steps := by
  induction steps using List.reverseRecOn with
  | nil => rfl
  | append_singleton steps step ih =>
    have stepped := histories_step (after steps) step
    rw [ih] at stepped
    simpa only [after, Histories.after, List.foldl_append, List.foldl_cons, List.foldl_nil]
      using stepped

theorem changesOf_after (steps : List Step) :
    changesOf (after steps).current = (Histories.after steps).current := by
  rw [← histories_after]
  rfl

end Pasts

/-- Since its last change the pattern has been used, and could be compiled then. -/
def HasCompiled (template : String) (past : List Step) : Prop :=
  ∃ earlier step later, past = earlier ++ step :: later ∧ step.uses = true ∧
    (Pattern.configured template (changesOf earlier)).compile.isOk = true ∧
    ∀ other ∈ later, other.change? = none

theorem not_hasCompiled_nil (template : String) : ¬ HasCompiled template [] := by
  rintro ⟨earlier, step, later, split, _⟩
  simp at split

/-- A step leaves the pattern compiled if it changes nothing, and the pattern has been compiled
before or is compiled now. -/
theorem hasCompiled_append_iff (template : String) (past : List Step) (step : Step) :
    HasCompiled template (past ++ [step]) ↔
      step.change? = none ∧ (HasCompiled template past ∨ step.uses = true ∧
        (Pattern.configured template (changesOf past)).compile.isOk = true) := by
  constructor
  · rintro ⟨earlier, used, later, split, uses, compiles, quiet⟩
    rcases List.eq_nil_or_concat later with rfl | ⟨kept, last, rfl⟩
    · obtain ⟨rfl, same⟩ := List.append_inj' split rfl
      cases same
      refine ⟨?_, .inr ⟨uses, compiles⟩⟩
      cases step <;> first | rfl | contradiction
    · rw [List.concat_eq_append, ← List.cons_append, ← List.append_assoc] at split
      obtain ⟨rfl, same⟩ := List.append_inj' split rfl
      cases same
      simp only [List.concat_eq_append, List.forall_mem_append, List.mem_singleton,
        forall_eq] at quiet
      exact ⟨quiet.2, .inl ⟨earlier, used, kept, rfl, uses, compiles, quiet.1⟩⟩
  · rintro ⟨keeps, ⟨earlier, used, later, rfl, uses, compiles, quiet⟩ | ⟨uses, compiles⟩⟩
    · refine ⟨earlier, used, later ++ [step], by simp, uses, compiles, ?_⟩
      simp only [List.forall_mem_append, List.mem_singleton, forall_eq]
      exact ⟨quiet, keeps⟩
    · exact ⟨past, step, [], rfl, uses, compiles, by simp⟩

namespace Pattern

theorem compile_eq_of_follows {template : String} {pattern : Pattern} {changes : List Change}
    (follows : Session.Follows template pattern changes) :
    pattern.compile = (configured template changes).compile := by
  rw [← follows.1, compile_uncompiled]

/-- After it has been prepared, a pattern keeps a compiled form if it did before or if it can be
compiled. -/
theorem isSome_compiled_prepare (pattern : Pattern) :
    pattern.prepare.pattern.compiled.isSome = true ↔
      pattern.compiled.isSome = true ∨ pattern.compile.isOk = true := by
  unfold prepare
  split
  · next compiled kept => simp [kept]
  · next nothing =>
    split
    · next failed => simp [failed, Except.isOk, Except.toBool]
    · next made => simp [made, Except.isOk, Except.toBool]

end Pattern

namespace Session

/-- A pattern has come from its past, and keeps a compiled form if its past says so. -/
def Recalls (template : String) (pattern : Pattern) (past : List Step) : Prop :=
  Follows template pattern (changesOf past) ∧
    (pattern.compiled.isSome = true ↔ HasCompiled template past)

/-- Each pattern of a session has come from its own past. -/
def IsRecalled (template : String) (session : Session) (pasts : Pasts) : Prop :=
  Recalls template session.current pasts.current ∧
    List.Forall₂ (Recalls template) session.saved pasts.saved

variable {template : String}

theorem Recalls.change {pattern : Pattern} {past : List Step} (recalls : Recalls template pattern past)
    (step : Step) (change : Change) (changes : step.change? = some change) :
    Recalls template (pattern.change change) (past ++ [step]) := by
  constructor
  · have history : changesOf (past ++ [step]) = changesOf past ++ [change] := by
      simp [changesOf, changes]
    rw [history]
    exact recalls.1.change change
  · rw [hasCompiled_append_iff, pattern.compiled_change]
    simp [changes]

theorem Recalls.use {pattern : Pattern} {past : List Step} (recalls : Recalls template pattern past)
    {step : Step} (uses : step.uses = true) :
    Recalls template pattern.prepare.pattern (past ++ [step]) := by
  have keeps : step.change? = none := by cases step <;> first | rfl | contradiction
  constructor
  · have history : changesOf (past ++ [step]) = changesOf past := by simp [changesOf, keeps]
    rw [history]
    exact recalls.1.prepare
  · rw [pattern.isSome_compiled_prepare, hasCompiled_append_iff, recalls.2,
      Pattern.compile_eq_of_follows recalls.1]
    simp [keeps, uses]

theorem Recalls.look {pattern : Pattern} {past : List Step} (recalls : Recalls template pattern past)
    {step : Step} (keeps : step.change? = none) (rests : step.uses = false) :
    Recalls template pattern (past ++ [step]) := by
  constructor
  · have history : changesOf (past ++ [step]) = changesOf past := by simp [changesOf, keeps]
    rw [history]
    exact recalls.1
  · rw [recalls.2, hasCompiled_append_iff]
    simp [keeps, rests]

/-- Every step keeps the patterns and their pasts together. -/
theorem IsRecalled.step {session : Session} {pasts : Pasts}
    (recalled : IsRecalled template session pasts) (step : Step) :
    IsRecalled template (session.step step).session (pasts.step step) := by
  obtain ⟨current, saved⟩ := recalled
  cases step with
  | validator name fragment =>
    exact ⟨current.change (.validator name fragment) ⟨.validator, name, fragment⟩ rfl, saved⟩
  | default name value =>
    exact ⟨current.change (.default name value) ⟨.default, name, value⟩ rfl, saved⟩
  | extract subject =>
    refine ⟨?_, saved⟩
    change Recalls template (session.current.extract subject).pattern _
    rw [Pattern.extract_pattern]
    exact current.use rfl
  | isMatch subject =>
    refine ⟨?_, saved⟩
    change Recalls template (session.current.extract subject).pattern _
    rw [Pattern.extract_pattern]
    exact current.use rfl
  | source => exact ⟨current.use rfl, saved⟩
  | placeholders => exact ⟨current.look rfl rfl, saved⟩
  | template => exact ⟨current.look rfl rfl, saved⟩
  | save => exact ⟨current, .cons current saved⟩
  | restore =>
    obtain ⟨pattern, patterns⟩ := session
    obtain ⟨past, kept⟩ := pasts
    cases saved with
    | nil => exact ⟨current, .nil⟩
    | cons restored others => exact ⟨restored, others⟩

/-- After any steps the patterns and their pasts are together. -/
theorem isRecalled_after (template : String) (steps : List Step) :
    IsRecalled template ((ofTemplate template).after steps) (Pasts.after steps) := by
  induction steps using List.reverseRecOn with
  | nil =>
    refine ⟨⟨⟨rfl, Pattern.isCoherent_of_compiled_eq_none rfl⟩, ?_⟩, .nil⟩
    exact iff_of_false Bool.false_ne_true (not_hasCompiled_nil template)
  | append_singleton steps step ih =>
    have stepped := ih.step step
    simpa only [after, Pasts.after, List.foldl_append, List.foldl_cons, List.foldl_nil]
      using stepped

end Session

end TextTemplate
