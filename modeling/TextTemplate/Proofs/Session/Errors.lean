import TextTemplate.Proofs.Pattern.Errors
import TextTemplate.Proofs.Session.Cache

/-!
# Errors in a session

The steps that need the compiled form of the pattern in use fail together and with the same error,
whatever the subject is. Which error that is depends on nothing but the template and the validators
in force for its placeholders. -/

namespace TextTemplate

/-- Whether a step needs the compiled form of the pattern in use. -/
def Step.uses : Step → Bool
  | .extract _ | .isMatch _ | .source => true
  | _ => false

theorem Reply.ofExcept_eq_failed_iff {Outcome : Type} {reply : Outcome → Reply}
    {result : Except PatternError Outcome} {error : PatternError}
    (plain : ∀ outcome, reply outcome ≠ .failed error) :
    ofExcept reply result = .failed error ↔ result = .error error := by
  cases result with
  | ok outcome => simp [ofExcept, plain]
  | error other => simp [ofExcept]

namespace Session

/-- The value in force for a name after some steps: the one set last in the history of the pattern in
use. -/
def inForce? (setting : Setting) (steps : List Step) (name : String) : Option String :=
  Change.lastValue? setting name (Histories.after steps).current

/-- The template's expression is within the limit of size, with the default values in force after
some steps. A template with a repeated name has no expression. -/
def IsLight (template : String) (steps : List Step) : Prop :=
  (placeholderNames (tokenize template)).Nodup →
    (templateExpr (fun name => (inForce? .default steps name).isSome)
      (tokenize template)).isTooHeavy = false

/-- A step that needs the compiled form fails if compiling the pattern does. -/
theorem reply_eq_failed_iff {session : Session} (coherent : session.current.IsCoherent)
    {step : Step} (uses : step.uses = true) (error : PatternError) :
    (session.step step).reply = .failed error ↔ session.current.compile = .error error := by
  cases step with
  | extract subject =>
    refine (Reply.ofExcept_eq_failed_iff (by simp)).trans ?_
    rw [coherent.extract_outcome, map_eq_error_iff]
  | isMatch subject =>
    refine (Reply.ofExcept_eq_failed_iff (by simp)).trans ?_
    rw [Pattern.isMatch, map_eq_error_iff, coherent.extract_outcome, map_eq_error_iff]
  | source =>
    refine (Reply.ofExcept_eq_failed_iff (by simp)).trans ?_
    rw [coherent.source_outcome, map_eq_error_iff]
  | _ => contradiction

section After

variable {template : String} {steps : List Step}

theorem template_after : ((ofTemplate template).after steps).current.template = template := by
  rw [← Pattern.template_uncompiled, (isTraced_after template steps).1.1, Pattern.template_configured]

/-- The pattern in use has the values in force. -/
theorem find?_settings_after (setting : Setting) :
    (((ofTemplate template).after steps).current.settings setting).find? =
      inForce? setting steps := by
  have same : ((ofTemplate template).after steps).current.settings setting =
      ((ofTemplate template).after steps).current.uncompiled.settings setting := by
    cases setting <;> rfl
  rw [same, (isTraced_after template steps).1.1]
  exact funext (Pattern.find?_settings_configured template _ setting)

/-- Compiling the pattern in use fails with the error that is due. -/
theorem compile_eq_error_iff (light : IsLight template steps) (error : PatternError) :
    ((ofTemplate template).after steps).current.compile = .error error ↔
      error.IsDue (placeholderNames (tokenize template)) (inForce? .validator steps) := by
  have validators : ((ofTemplate template).after steps).current.validators.find? =
      inForce? .validator steps := find?_settings_after .validator
  have defaults : ((ofTemplate template).after steps).current.defaults.contains =
      fun name => (inForce? .default steps name).isSome :=
    funext fun name => congrArg Option.isSome (congrFun (find?_settings_after .default) name)
  rw [Pattern.compile, template_after, Compiled.ofTemplate_eq_error_iff, validators]
  rwa [defaults]

end After

theorem reply_failed_iff_isDue {template : String} {steps : List Step} {step : Step}
    (uses : step.uses = true) (light : IsLight template steps) (error : PatternError) :
    (((ofTemplate template).after steps).step step).reply = .failed error ↔
      error.IsDue (placeholderNames (tokenize template)) (inForce? .validator steps) := by
  rw [reply_eq_failed_iff (isTraced_after template steps).1.2 uses, compile_eq_error_iff light]

/-- A step that needs the compiled form fails with the error that is due, and answers if none is.
Any two such steps fail alike as long as the placeholders have the same validators, whatever else
has been done to the pattern. -/
theorem run_reply_failed_iff (template : String) (before : List Step) (step : Step)
    (later : List Step) (uses : step.uses = true) (light : IsLight template before) :
    ∃ turn, ((ofTemplate template).run (before ++ step :: later))[before.length]? = some turn ∧
      (∀ error, turn.reply = .failed error ↔
        error.IsDue (placeholderNames (tokenize template)) (inForce? .validator before)) ∧
      ((∃ error, turn.reply = .failed error) ↔
        ¬ (placeholderNames (tokenize template)).Nodup ∨
          ∃ name ∈ placeholderNames (tokenize template), ∃ cause,
            FailsToCompile (inForce? .validator before) name cause) ∧
      ∀ otherBefore otherStep otherLater, otherStep.uses = true → IsLight template otherBefore →
        (∀ name ∈ placeholderNames (tokenize template),
          inForce? .validator otherBefore name = inForce? .validator before name) →
        ∃ otherTurn,
          ((ofTemplate template).run
            (otherBefore ++ otherStep :: otherLater))[otherBefore.length]? = some otherTurn ∧
          ∀ error, otherTurn.reply = .failed error ↔ turn.reply = .failed error := by
  have fails := reply_failed_iff_isDue uses light
  refine ⟨_, getElem?_run _ before step later, fails, ?_, ?_⟩
  · simp only [fails]
    exact PatternError.exists_isDue_iff
  · intro otherBefore otherStep otherLater otherUses otherLight same
    refine ⟨_, getElem?_run _ otherBefore otherStep otherLater, fun error => ?_⟩
    rw [reply_failed_iff_isDue otherUses otherLight, fails]
    constructor
    · exact PatternError.IsDue.congr same
    · exact PatternError.IsDue.congr fun name listed => (same name listed).symm

/-- Two placeholders have broken validators, and so has a name that is no placeholder; the first
placeholder in the template is reported. -/
theorem run_reply_failed_first :
    let before : List Step := [.validator "zz" "(", .validator "cd" "(", .validator "ab" "*",
      .default "cd" "x"]
    IsLight "{ab}-{cd}" before ∧
      (((ofTemplate "{ab}-{cd}").run
        (before ++ .isMatch "y" :: []))[before.length]?).map (·.reply) =
          some (.failed (.validator "ab" (.unreadable "^(?:*)$" ⟨.repetitionMissing, ⟨4, 4⟩⟩))) := by
  intro before
  have light : IsLight "{ab}-{cd}" before := fun _ => by decide +kernel
  have names : placeholderNames (tokenize "{ab}-{cd}") = ["ab", "cd"] := by
    decide +kernel
  obtain ⟨turn, found, fails, _⟩ :=
    run_reply_failed_iff "{ab}-{cd}" before (.isMatch "y") [] rfl light
  refine ⟨light, ?_⟩
  rw [found, Option.map_some, Option.some_inj, fails, names]
  exact .failed (by decide) (List.nil_append _).symm ⟨"*", by decide, by decide +kernel⟩ (by simp)

end Session

end TextTemplate
