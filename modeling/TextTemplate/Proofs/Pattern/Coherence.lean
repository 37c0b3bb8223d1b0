import TextTemplate.Pattern.Basic

/-!
# The kept form of a pattern

A pattern is coherent if the compiled form that it keeps, if any, is the one that compiling its
configuration would give. The uses of a coherent pattern are decided by its configuration, and they
leave it coherent. -/

namespace TextTemplate.Pattern

/-- What is kept is what compiling the configuration gives. -/
def IsCoherent (pattern : Pattern) : Prop :=
  ∀ compiled, pattern.compiled = some compiled → pattern.compile = .ok compiled

def uncompiled (pattern : Pattern) : Pattern := { pattern with compiled := none }

@[simp] theorem template_uncompiled (pattern : Pattern) :
    pattern.uncompiled.template = pattern.template := rfl

@[simp] theorem defaults_uncompiled (pattern : Pattern) :
    pattern.uncompiled.defaults = pattern.defaults := rfl

@[simp] theorem compile_uncompiled (pattern : Pattern) :
    pattern.uncompiled.compile = pattern.compile := rfl

theorem isCoherent_of_compiled_eq_none {pattern : Pattern} (nothing : pattern.compiled = none) :
    pattern.IsCoherent := by
  intro compiled kept
  rw [nothing] at kept
  contradiction

/-- Using a coherent pattern gives what compiling it would give. -/
theorem IsCoherent.prepare_outcome {pattern : Pattern} (coherent : pattern.IsCoherent) :
    pattern.prepare.outcome = pattern.compile := by
  unfold prepare
  split
  · next compiled kept => rw [coherent compiled kept]
  · split
    · next failed => rw [failed]
    · next made => rw [made]

theorem uncompiled_prepare (pattern : Pattern) :
    pattern.prepare.pattern.uncompiled = pattern.uncompiled := by
  unfold prepare
  split
  · rfl
  · split <;> rfl

theorem IsCoherent.prepare {pattern : Pattern} (coherent : pattern.IsCoherent) :
    pattern.prepare.pattern.IsCoherent := by
  unfold Pattern.prepare
  split
  · exact coherent
  · split
    · exact coherent
    · next compiled made =>
      intro kept same
      cases same
      exact made

theorem extract_pattern (subject : String) (pattern : Pattern) :
    (pattern.extract subject).pattern = pattern.prepare.pattern := by
  unfold extract
  dsimp only
  split <;> rfl

/-- A match is decided by the configuration. -/
theorem IsCoherent.extract_outcome {pattern : Pattern} (coherent : pattern.IsCoherent)
    (subject : String) :
    (pattern.extract subject).outcome =
      pattern.compile.map fun compiled => (compiled.extract pattern.defaults subject).1 := by
  have defaults : pattern.prepare.pattern.defaults = pattern.defaults := by
    rw [← defaults_uncompiled, uncompiled_prepare, defaults_uncompiled]
  have outcome := coherent.prepare_outcome
  unfold extract
  dsimp only
  split
  · next error failed => rw [← outcome, failed]; rfl
  · next compiled made => rw [← outcome, made, defaults]; rfl

/-- Only a match reports rejections. -/
theorem rejected_not_mem_prepare (pattern : Pattern) (rejection : Rejection) :
    .rejected rejection ∉ pattern.prepare.events := by
  unfold prepare
  split
  · exact List.not_mem_nil
  · split
    · exact List.not_mem_nil
    · simp

/-- A match reports the rejection that turns it into none. -/
theorem IsCoherent.rejected_mem_extract_iff {pattern : Pattern} (coherent : pattern.IsCoherent)
    {compiled : Compiled} (compiles : pattern.compile = .ok compiled) (subject : String)
    (rejection : Rejection) :
    .rejected rejection ∈ (pattern.extract subject).events ↔
      (compiled.extract pattern.defaults subject).2 = some rejection := by
  have defaults : pattern.prepare.pattern.defaults = pattern.defaults := by
    rw [← defaults_uncompiled, uncompiled_prepare, defaults_uncompiled]
  have outcome := coherent.prepare_outcome.trans compiles
  have events : (pattern.extract subject).events = pattern.prepare.events ++
      (compiled.extract pattern.defaults subject).2.toList.map .rejected := by
    simp only [extract, outcome, defaults]
  rw [events, List.mem_append, or_iff_right (rejected_not_mem_prepare pattern rejection)]
  simp

theorem IsCoherent.source_outcome {pattern : Pattern} (coherent : pattern.IsCoherent) :
    pattern.source.outcome = pattern.compile.map (·.source) := by
  rw [source, coherent.prepare_outcome]

end TextTemplate.Pattern
