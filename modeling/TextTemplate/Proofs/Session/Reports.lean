import Mathlib.Data.List.Dedup
import TextTemplate.Proofs.Pattern.Rejections
import TextTemplate.Proofs.Session.Pasts

/-!
# What a session reports

A step reports that the pattern has been compiled when it needs the compiled form and none is kept,
and a match reports the first value that its validator rejects. Nothing else is reported. What is
kept is told by the past of the pattern in use, so that the reports tell it too. -/

namespace TextTemplate

def Step.subject? : Step → Option String
  | .extract subject | .isMatch subject => some subject
  | _ => none

/-- As many validators are compiled as there are names with a fragment. -/
theorem length_of_compileValidators {validators : Bindings} {names : List String}
    {checks : List (String × Expr)} (compiles : compileValidators validators names = .ok checks) :
    checks.length = names.countP fun name => (validators.find? name).isSome := by
  induction names generalizing checks with
  | nil =>
    cases compiles
    rfl
  | cons name names ih =>
    unfold compileValidators at compiles
    split at compiles
    · next missing =>
      rw [List.countP_cons_of_neg (by simp [missing])]
      exact ih compiles
    · next fragment given =>
      split at compiles
      · contradiction
      · next expr made =>
        simp only [bind_eq_ok_iff, pure_eq_ok_iff] at compiles
        obtain ⟨rest, later, rfl⟩ := compiles
        rw [List.countP_cons_of_pos (by simp [given]), List.length_cons, ih later]

/-- The validators of a compiled pattern are those of the distinct placeholders that have one. -/
theorem Compiled.length_validators {template : String} {validators defaults : Bindings}
    {compiled : Compiled} (compiles : ofTemplate template validators defaults = .ok compiled) :
    compiled.validators.length = (placeholderNames (tokenize template)).dedup.countP fun name =>
      (validators.find? name).isSome := by
  obtain ⟨distinct, _, checks, found, rfl⟩ := ofTemplate_eq_ok_iff.mp compiles
  rw [distinct.dedup]
  exact length_of_compileValidators found

namespace Pattern

variable {pattern : Pattern}

/-- The report of a compilation that a use of the pattern makes, if there is one. -/
def compilation? (pattern : Pattern) : Option Event :=
  match pattern.compiled, pattern.compile with
  | none, .ok compiled =>
    some (.compiled pattern.template compiled.source compiled.validators.length)
  | _, _ => none

theorem prepare_events (pattern : Pattern) :
    pattern.prepare.events = pattern.compilation?.toList := by
  unfold prepare compilation?
  cases pattern.compiled with
  | some compiled => rfl
  | none => cases pattern.compile <;> rfl

theorem isSome_compilation?_iff :
    pattern.compilation?.isSome = true ↔
      pattern.compile.isOk = true ∧ ¬ pattern.compiled.isSome = true := by
  unfold compilation?
  cases pattern.compiled <;> cases pattern.compile <;> simp [Except.isOk, Except.toBool]

theorem compilation?_eq_some_iff {event : Event} :
    pattern.compilation? = some event ↔ pattern.compiled = none ∧
      ∃ compiled, pattern.compile = .ok compiled ∧
        event = .compiled pattern.template compiled.source compiled.validators.length := by
  unfold compilation?
  cases pattern.compiled <;> cases pattern.compile <;> simp [eq_comm]

/-- The rejection that a match reports, if there is one. -/
def rejection? (pattern : Pattern) (subject : String) : Option Rejection :=
  match pattern.compile with
  | .ok compiled => (compiled.extract pattern.defaults subject).2
  | .error _ => none

/-- A match reports the compilation first and then the rejection. -/
theorem IsCoherent.extract_events (coherent : pattern.IsCoherent) (subject : String) :
    (pattern.extract subject).events =
      pattern.compilation?.toList ++ (pattern.rejection? subject).toList.map .rejected := by
  have defaults : pattern.prepare.pattern.defaults = pattern.defaults := by
    rw [← defaults_uncompiled, uncompiled_prepare, defaults_uncompiled]
  have outcome := coherent.prepare_outcome
  rw [← prepare_events]
  cases compiles : pattern.compile with
  | ok compiled => simp only [extract, outcome, compiles, defaults, rejection?]
  | error error => simp [extract, outcome, compiles, rejection?]

/-- A match with a rejection is none. -/
theorem IsCoherent.extract_outcome_of_rejection? (coherent : pattern.IsCoherent) {subject : String}
    {rejection : Rejection} (rejected : pattern.rejection? subject = some rejection) :
    (pattern.extract subject).outcome = .ok .unmatched := by
  rw [coherent.extract_outcome]
  unfold rejection? at rejected
  split at rejected
  · next compiled made =>
    rw [made]
    exact congrArg Except.ok (Compiled.extract_unmatched rejected)
  · contradiction

end Pattern

namespace Session

/-- The report of a compilation that a step makes, if there is one. -/
def compilation? (session : Session) (step : Step) : Option Event :=
  if step.uses then session.current.compilation? else none

/-- The rejection that a step reports, if there is one. -/
def rejection? (session : Session) (step : Step) : Option Rejection :=
  step.subject?.bind session.current.rejection?

/-- A step reports a compilation, then a rejection, and nothing else. -/
theorem step_events {session : Session} (coherent : session.current.IsCoherent) (step : Step) :
    (session.step step).events =
      (session.compilation? step).toList ++ (session.rejection? step).toList.map .rejected := by
  cases step with
  | extract subject => exact coherent.extract_events subject
  | isMatch subject => exact coherent.extract_events subject
  | source => exact (Pattern.prepare_events _).trans (List.append_nil _).symm
  | restore =>
    obtain ⟨pattern, saved⟩ := session
    cases saved <;> rfl
  | _ => rfl

theorem reply_of_rejection? {session : Session} (coherent : session.current.IsCoherent)
    {step : Step} (rejected : (session.rejection? step).isSome = true) :
    (session.step step).reply = .result .unmatched ∨ (session.step step).reply = .truth false := by
  obtain ⟨rejection, found⟩ := Option.isSome_iff_exists.mp rejected
  cases step with
  | extract subject =>
    apply Or.inl
    exact congrArg (Reply.ofExcept .result) (coherent.extract_outcome_of_rejection? found)
  | isMatch subject =>
    apply Or.inr
    exact congrArg (fun outcome => Reply.ofExcept .truth (outcome.map (·.isMatched)))
      (coherent.extract_outcome_of_rejection? found)
  | _ => contradiction

section After

variable {template : String} {steps : List Step}

/-- A compilation is reported if the pattern can be compiled and has not been since its last
change. -/
theorem isSome_compilation?_after_iff (step : Step) :
    (((ofTemplate template).after steps).compilation? step).isSome = true ↔ step.uses = true ∧
      (Pattern.configured template (Histories.after steps).current).compile.isOk = true ∧
      ¬ HasCompiled template (Pasts.after steps).current := by
  obtain ⟨follows, keeps⟩ := (isRecalled_after template steps).1
  rw [Pasts.changesOf_after] at follows
  rw [← keeps, ← Pattern.compile_eq_of_follows follows, compilation?]
  cases step.uses with
  | false => simp
  | true => simp [Pattern.isSome_compilation?_iff]

theorem ofTemplate_of_compile_after {compiled : Compiled}
    (made : ((ofTemplate template).after steps).current.compile = .ok compiled) :
    Compiled.ofTemplate template ((ofTemplate template).after steps).current.validators
      ((ofTemplate template).after steps).current.defaults = .ok compiled := by
  rwa [Pattern.compile, template_after] at made

/-- The report of a compilation holds what asking for the expression answers, and the number of
placeholders with a validator. -/
theorem exists_source_of_compilation?_after {step : Step} {event : Event}
    (reported : ((ofTemplate template).after steps).compilation? step = some event) :
    ∃ source, (((ofTemplate template).after steps).step .source).reply = .text source ∧
      event = .compiled template source ((placeholderNames (tokenize template)).dedup.countP
        fun name => (inForce? .validator steps name).isSome) := by
  have coherent := (isTraced_after template steps).1.2
  have validators : ((ofTemplate template).after steps).current.validators.find? =
      inForce? .validator steps := find?_settings_after .validator
  obtain ⟨_, compiled, made, rfl⟩ :=
    Pattern.compilation?_eq_some_iff.mp (Option.ite_none_right_eq_some.mp reported).2
  refine ⟨compiled.source, ?_, ?_⟩
  · have source : ((ofTemplate template).after steps).current.source.outcome =
        .ok compiled.source := by rw [coherent.source_outcome, made]; rfl
    exact congrArg (Reply.ofExcept .text) source
  · rw [template_after, Compiled.length_validators (ofTemplate_of_compile_after made), validators]

/-- The rejection reported is that of the first placeholder whose value its validator rejects. -/
theorem rejection?_after_eq_some_iff (step : Step) (rejection : Rejection) :
    ((ofTemplate template).after steps).rejection? step = some rejection ↔ ∃ subject compiled,
      step.subject? = some subject ∧
      (Pattern.configured template (Histories.after steps).current).compile = .ok compiled ∧
      compiled.IsFirstRejected (placeholderNames (tokenize template)) (inForce? .validator steps)
        subject rejection := by
  have validators : ((ofTemplate template).after steps).current.validators.find? =
      inForce? .validator steps := find?_settings_after .validator
  rw [rejection?, Option.bind_eq_some_iff,
    ← Pattern.compile_eq_of_follows (isTraced_after template steps).1, ← validators]
  constructor
  · rintro ⟨subject, asked, rejected⟩
    unfold Pattern.rejection? at rejected
    split at rejected
    · next compiled made =>
      refine ⟨subject, compiled, asked, made, ?_⟩
      exact (Compiled.extract_rejection_iff (ofTemplate_of_compile_after made) _ _ _).mp rejected
    · contradiction
  · rintro ⟨subject, compiled, asked, made, first⟩
    refine ⟨subject, asked, ?_⟩
    simp only [Pattern.rejection?, made]
    exact (Compiled.extract_rejection_iff (ofTemplate_of_compile_after made) _ _ _).mpr first

end After

/-- A step reports a compilation if and only if it needs the compiled form, the pattern can be
compiled and it has not been since its last change; the report is a step of the work and holds what
asking for the expression answers and the number of placeholders with a validator. A step reports a
rejection if and only if it matches a subject and a placeholder's value is rejected; then it reports
the first one, as a detail behind the compilation, and the subject does not match. Nothing else is
reported. -/
theorem run_events (template : String) (before : List Step) (step : Step) (later : List Step) :
    ∃ turn compilation rejection,
      ((ofTemplate template).run (before ++ step :: later))[before.length]? = some turn ∧
      turn.events = Option.toList compilation ++ (Option.toList rejection).map .rejected ∧
      (compilation.isSome = true ↔ step.uses = true ∧
        (Pattern.configured template (Histories.after before).current).compile.isOk = true ∧
        ¬ HasCompiled template (Pasts.after before).current) ∧
      (∀ event, compilation = some event →
        event.level = .debug ∧ event.message = "compiled pattern" ∧ ∃ source,
          (((ofTemplate template).after before).step .source).reply = .text source ∧
          event = .compiled template source ((placeholderNames (tokenize template)).dedup.countP
            fun name => (inForce? .validator before name).isSome)) ∧
      (∀ reported, rejection = some reported ↔ ∃ subject compiled,
        step.subject? = some subject ∧
        (Pattern.configured template (Histories.after before).current).compile = .ok compiled ∧
        compiled.IsFirstRejected (placeholderNames (tokenize template))
          (inForce? .validator before) subject reported) ∧
      (∀ event ∈ (Option.toList rejection).map Event.rejected,
        event.level = .trace ∧ event.message = "validator rejected capture") ∧
      (rejection.isSome = true →
        turn.reply = .result .unmatched ∨ turn.reply = .truth false) := by
  have coherent := (isTraced_after template before).1.2
  refine ⟨_, ((ofTemplate template).after before).compilation? step,
    ((ofTemplate template).after before).rejection? step, getElem?_run _ before step later,
    step_events coherent step, isSome_compilation?_after_iff step, ?_, ?_, ?_,
    reply_of_rejection? coherent⟩
  · intro event reported
    obtain ⟨source, asked, rfl⟩ := exists_source_of_compilation?_after reported
    exact ⟨rfl, rfl, source, asked, rfl⟩
  · exact rejection?_after_eq_some_iff step
  · intro event member
    obtain ⟨rejection, -, rfl⟩ := List.mem_map.mp member
    exact ⟨rfl, rfl⟩

/-- The pattern is saved with its compiled form, and a change made later does not take it away: after
the pattern is restored, a match reports the rejected value only. -/
theorem run_events_after_restore :
    (((ofTemplate "{ab}").run
      ([.validator "ab" "x", .isMatch "x", .save, .validator "ab" "z", .restore] ++
        .extract "y" :: []))[5]?).map (·.events) = some [.rejected ⟨"ab", "y"⟩] := by
  obtain ⟨turn, compilation, rejection, found, events, compiles, _, rejects, _, _⟩ :=
    run_events "{ab}"
      [.validator "ab" "x", .isMatch "x", .save, .validator "ab" "z", .restore] (.extract "y") []
  have nothing : compilation = none := by
    rw [← Option.not_isSome_iff_eq_none, compiles]
    rintro ⟨_, _, fresh⟩
    exact fresh ⟨[.validator "ab" "x"], .isMatch "x", [], rfl, rfl, by decide +kernel, by simp⟩
  have reported : rejection = some ⟨"ab", "y"⟩ := by
    obtain ⟨form, made⟩ : ∃ form,
        (Pattern.configured "{ab}" [⟨.validator, "ab", "x"⟩]).compile = .ok form :=
      Pattern.exists_compile_eq_ok (by decide +kernel)
    have captured : (Pattern.configured "{ab}" [⟨.validator, "ab", "x"⟩]).compile.toOption.bind
        (·.captured? "y" "ab") = some "y" := by decide +kernel
    rw [made] at captured
    have names : placeholderNames (tokenize "{ab}") = [] ++ "ab" :: [] := by decide +kernel
    refine (rejects _).mpr ⟨"y", form, rfl, made, [], [], names, ⟨captured, "x", rfl, ?_⟩, ?_⟩
    · decide +kernel
    · simp
  have turns : ((ofTemplate "{ab}").run
      ([.validator "ab" "x", .isMatch "x", .save, .validator "ab" "z", .restore] ++
        .extract "y" :: []))[5]? = some turn := found
  rw [turns, Option.map_some, events, nothing, reported]
  rfl

end Session

end TextTemplate
