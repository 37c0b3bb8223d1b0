import Mathlib.Data.List.Forall2
import TextTemplate.Proofs.Pattern.Coherence
import TextTemplate.Proofs.Session.Configuration

/-!
# The kept form is never seen

A pattern keeps its compiled form from one use to the next. A change drops
it, a failure leaves nothing behind, and a saved pattern carries its own, so that what is kept stays
what compiling the configuration would give. Every answer of a session is therefore that of a new
pattern with the changes in force. -/

namespace TextTemplate

namespace Pattern

theorem uncompiled_change (pattern : Pattern) (change : Change) :
    (pattern.change change).uncompiled = pattern.uncompiled.change change := by
  unfold Pattern.change
  split <;> rfl

end Pattern

/-- Whether a step asks something of the pattern in use. -/
def Step.observes : Step → Bool
  | .extract _ | .isMatch _ | .source | .placeholders | .template => true
  | _ => false

namespace Session

def after (session : Session) (steps : List Step) : Session :=
  steps.foldl (fun session step => (session.step step).session) session

/-- The turn of a step is the one that the steps before it lead to. -/
theorem getElem?_run (session : Session) (before : List Step) (step : Step) (later : List Step) :
    (session.run (before ++ step :: later))[before.length]? =
      some ((session.after before).step step) := by
  induction before generalizing session with
  | nil => rfl
  | cons first before ih => exact ih (session.step first).session

/-- A pattern has come from some changes and keeps nothing else. -/
def Follows (template : String) (pattern : Pattern) (changes : List Change) : Prop :=
  pattern.uncompiled = Pattern.configured template changes ∧ pattern.IsCoherent

/-- Each pattern of a session has come from its own history. -/
def IsTraced (template : String) (session : Session) (histories : Histories) : Prop :=
  Follows template session.current histories.current ∧
    List.Forall₂ (Follows template) session.saved histories.saved

theorem Follows.change {template : String} {pattern : Pattern} {changes : List Change}
    (follows : Follows template pattern changes) (change : Change) :
    Follows template (pattern.change change) (changes ++ [change]) := by
  refine ⟨?_, Pattern.isCoherent_of_compiled_eq_none (pattern.compiled_change change)⟩
  rw [Pattern.uncompiled_change, follows.1, Pattern.configured_append]

theorem Follows.prepare {template : String} {pattern : Pattern} {changes : List Change}
    (follows : Follows template pattern changes) :
    Follows template pattern.prepare.pattern changes :=
  ⟨pattern.uncompiled_prepare.trans follows.1, follows.2.prepare⟩

/-- Every step keeps the patterns and their histories together. -/
theorem IsTraced.step {template : String} {session : Session} {histories : Histories}
    (traced : IsTraced template session histories) (step : Step) :
    IsTraced template (session.step step).session (histories.step step) := by
  obtain ⟨current, saved⟩ := traced
  cases step with
  | validator name fragment => exact ⟨current.change ⟨.validator, name, fragment⟩, saved⟩
  | default name value => exact ⟨current.change ⟨.default, name, value⟩, saved⟩
  | extract subject =>
    refine ⟨?_, saved⟩
    change Follows template (session.current.extract subject).pattern histories.current
    rw [Pattern.extract_pattern]
    exact current.prepare
  | isMatch subject =>
    refine ⟨?_, saved⟩
    change Follows template (session.current.extract subject).pattern histories.current
    rw [Pattern.extract_pattern]
    exact current.prepare
  | source => exact ⟨current.prepare, saved⟩
  | placeholders => exact ⟨current, saved⟩
  | template => exact ⟨current, saved⟩
  | save => exact ⟨current, .cons current saved⟩
  | restore =>
    obtain ⟨pattern, patterns⟩ := session
    obtain ⟨changes, kept⟩ := histories
    cases saved with
    | nil => exact ⟨current, .nil⟩
    | cons restored others => exact ⟨restored, others⟩

/-- After any steps the patterns and their histories are together. -/
theorem isTraced_after (template : String) (steps : List Step) :
    IsTraced template ((ofTemplate template).after steps) (Histories.after steps) := by
  induction steps using List.reverseRecOn with
  | nil => exact ⟨⟨rfl, Pattern.isCoherent_of_compiled_eq_none rfl⟩, .nil⟩
  | append_singleton steps step ih =>
    have stepped := ih.step step
    simpa only [after, Histories.after, List.foldl_append, List.foldl_cons, List.foldl_nil]
      using stepped

/-- The session with a new pattern that some changes configure. -/
def fresh (template : String) (changes : List Change) : Session :=
  ⟨.configured template changes, []⟩

/-- The answer to a question is determined by the history of the pattern in use. -/
theorem Follows.reply {template : String} {session : Session} {changes : List Change}
    (follows : Follows template session.current changes) {step : Step}
    (observes : step.observes = true) :
    (session.step step).reply = ((fresh template changes).step step).reply := by
  obtain ⟨same, coherent⟩ := follows
  have freshCoherent := Pattern.isCoherent_of_compiled_eq_none
    (Pattern.compiled_configured template changes)
  have compiles : session.current.compile = (Pattern.configured template changes).compile := by
    rw [← same, Pattern.compile_uncompiled]
  have templates : session.current.template = (Pattern.configured template changes).template := by
    rw [← same, Pattern.template_uncompiled]
  have defaults : session.current.defaults = (Pattern.configured template changes).defaults := by
    rw [← same, Pattern.defaults_uncompiled]
  have extracts : ∀ subject, (session.current.extract subject).outcome =
      ((Pattern.configured template changes).extract subject).outcome := by
    intro subject
    rw [coherent.extract_outcome, freshCoherent.extract_outcome, compiles, defaults]
  cases step with
  | extract subject => exact congrArg (Reply.ofExcept .result) (extracts subject)
  | isMatch subject =>
    exact congrArg (fun outcome => Reply.ofExcept .truth (outcome.map (·.isMatched)))
      (extracts subject)
  | source =>
    have sources : session.current.source.outcome =
        (Pattern.configured template changes).source.outcome := by
      rw [coherent.source_outcome, freshCoherent.source_outcome, compiles]
    exact congrArg (Reply.ofExcept .text) sources
  | placeholders =>
    exact congrArg (fun template => Reply.names (placeholderNames (tokenize template))) templates
  | template => exact congrArg Reply.text templates
  | _ => contradiction

/-- Every question in a session is answered as by a new pattern to which only the changes in force
have been made, in any order. -/
theorem run_reply_eq_fresh (template : String) (before : List Step) (step : Step)
    (later : List Step) (observes : step.observes = true) (order : List Change)
    (perm : order.Perm (Change.inForce (Histories.after before).current)) :
    ((ofTemplate template).run (before ++ step :: later))[before.length]?.map (·.reply) =
      some ((fresh template order).step step).reply := by
  have traced := (isTraced_after template before).1
  rw [getElem?_run, Option.map_some, traced.reply observes]
  congr 2
  rw [fresh, fresh, Pattern.configured_of_perm perm]

/-- A validator that cannot be compiled is replaced after it has been used, and the copy saved
before that comes back with it. -/
theorem run_reply_after_restore :
    (((ofTemplate "{ab}").run
      ([.validator "ab" "(", .default "cd" "x", .isMatch "a", .save, .validator "ab" "a",
        .extract "a", .restore] ++ .extract "a" :: []))[7]?).map (·.reply) =
      some ((fresh "{ab}" [⟨.default, "cd", "x"⟩, ⟨.validator, "ab", "("⟩]).step
        (.extract "a")).reply :=
  run_reply_eq_fresh "{ab}"
    [.validator "ab" "(", .default "cd" "x", .isMatch "a", .save, .validator "ab" "a",
      .extract "a", .restore]
    (.extract "a") [] (by decide) _ (by decide)

end Session

end TextTemplate
