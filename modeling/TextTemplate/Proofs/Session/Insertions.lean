import TextTemplate.Proofs.Pattern.OtherNames
import TextTemplate.Proofs.Session.Pasts

/-!
# Changes put into a session

Changes for a name that is no placeholder may be put in anywhere between the steps of a session. What
the patterns hold for other names stays the same, so that the steps are answered as before: a validator
makes no difference at all, and a default value only goes into the results under its name. -/

namespace TextTemplate

/-- The answer with a value for a name, or with none, if it is a match. -/
def Reply.assign (name : String) (value? : Option String) : Reply → Reply
  | result outcome => result (outcome.assign name value?)
  | reply => reply

namespace Change

/-- The value given last is that of the last change, if this is for the name. -/
theorem lastValue?_append_singleton (setting : Setting) (name : String) (changes : List Change)
    (change : Change) :
    lastValue? setting name (changes ++ [change]) =
      if change.setting = setting ∧ change.name = name then some change.value
      else lastValue? setting name changes := by
  induction changes with
  | nil => rfl
  | cons first later ih =>
    rw [List.cons_append, lastValue?, lastValue?, ih]
    split <;> rfl

/-- The changes give the same values, except for what may vary. -/
def AgreeExcept (varies : Setting → String → Prop) (changes others : List Change) : Prop :=
  ∀ setting name, ¬ varies setting name →
    lastValue? setting name others = lastValue? setting name changes

variable {varies : Setting → String → Prop} {changes others : List Change} {change : Change}

/-- The same change leaves the same values. -/
theorem AgreeExcept.append (agree : AgreeExcept varies changes others) (change : Change) :
    AgreeExcept varies (changes ++ [change]) (others ++ [change]) := by
  intro setting name fixed
  rw [lastValue?_append_singleton, lastValue?_append_singleton, agree setting name fixed]

/-- A change of what may vary leaves the other values. -/
theorem AgreeExcept.append_right (agree : AgreeExcept varies changes others)
    (varied : varies change.setting change.name) :
    AgreeExcept varies changes (others ++ [change]) := by
  intro setting name fixed
  have other : ¬ (change.setting = setting ∧ change.name = name) := by
    rintro ⟨rfl, rfl⟩
    exact fixed varied
  rw [lastValue?_append_singleton, if_neg other, agree setting name fixed]

end Change

/-- The second steps are the first ones with further changes between them, of what may vary. -/
inductive IsExtension (varies : Setting → String → Prop) : List Step → List Step → Prop
  | nil : IsExtension varies [] []
  | keep {steps longer : List Step} (step : Step) (rest : IsExtension varies steps longer) :
      IsExtension varies (step :: steps) (step :: longer)
  | insert {steps longer : List Step} {step : Step} {change : Change}
      (makes : step.change? = some change) (varied : varies change.setting change.name)
      (rest : IsExtension varies steps longer) : IsExtension varies steps (step :: longer)

namespace Histories

variable {varies : Setting → String → Prop} {histories others : Histories}

/-- The histories of the patterns in use and of the saved ones give the same values, except for what
may vary. -/
structure AgreeExcept (varies : Setting → String → Prop) (histories others : Histories) : Prop where
  current : Change.AgreeExcept varies histories.current others.current
  saved : List.Forall₂ (Change.AgreeExcept varies) histories.saved others.saved

/-- The same step keeps the agreement. -/
theorem AgreeExcept.step (agree : AgreeExcept varies histories others) (step : Step) :
    AgreeExcept varies (histories.step step) (others.step step) := by
  obtain ⟨current, saved⟩ := agree
  cases step with
  | validator name fragment => exact ⟨current.append _, saved⟩
  | default name value => exact ⟨current.append _, saved⟩
  | save => exact ⟨current, .cons current saved⟩
  | restore =>
    obtain ⟨changes, kept⟩ := histories
    obtain ⟨otherChanges, otherKept⟩ := others
    cases saved with
    | nil => exact ⟨current, .nil⟩
    | cons restored behind => exact ⟨restored, behind⟩
  | extract | isMatch | source | placeholders | template => exact ⟨current, saved⟩

/-- A change of what may vary keeps the agreement when it is made in one session only. -/
theorem AgreeExcept.insert (agree : AgreeExcept varies histories others) {step : Step}
    {change : Change} (makes : step.change? = some change)
    (varied : varies change.setting change.name) :
    AgreeExcept varies histories (others.step step) := by
  cases step with
  | validator | default =>
    cases makes
    exact ⟨agree.current.append_right varied, agree.saved⟩
  | _ => contradiction

end Histories

namespace IsExtension

variable {varies widely : Setting → String → Prop} {before longer : List Step}

theorem refl (varies : Setting → String → Prop) (steps : List Step) :
    IsExtension varies steps steps := by
  induction steps with
  | nil => exact .nil
  | cons step steps ih => exact .keep step ih

theorem mono (wider : ∀ setting name, varies setting name → widely setting name)
    (extended : IsExtension varies before longer) : IsExtension widely before longer := by
  induction extended with
  | nil => exact .nil
  | keep step _ ih => exact .keep step ih
  | insert makes varied _ ih => exact .insert makes (wider _ _ varied) ih

/-- Histories that agree still do after a session and one with changes put in. -/
private theorem agreeExcept_foldl (extended : IsExtension varies before longer)
    {histories others : Histories} (agree : histories.AgreeExcept varies others) :
    (before.foldl Histories.step histories).AgreeExcept varies
      (longer.foldl Histories.step others) := by
  induction extended generalizing histories others with
  | nil => exact agree
  | keep step _ ih => exact ih (agree.step step)
  | insert makes varied _ ih => exact ih (agree.insert makes varied)

/-- The changes put in make no difference for what may not vary. -/
theorem agreeExcept_after (extended : IsExtension varies before longer) :
    (Histories.after before).AgreeExcept varies (Histories.after longer) :=
  extended.agreeExcept_foldl ⟨fun _ _ _ => rfl, .nil⟩

/-- What may not vary is in force as before. -/
theorem inForce?_eq (extended : IsExtension varies before longer) {setting : Setting}
    {name : String} (fixed : ¬ varies setting name) :
    Session.inForce? setting longer name = Session.inForce? setting before name :=
  extended.agreeExcept_after.current setting name fixed

end IsExtension

namespace Session

variable {template name : String} {session other : Session} {before longer : List Step}

/-- Sessions whose patterns in use agree up to a name that is no placeholder answer a step alike, up
to the value of this name in a match. -/
theorem reply_eq_assign (agrees : Pattern.AgreesApartFrom name session.current other.current)
    (unknown : name ∉ session.current.placeholders) (coherent : session.current.IsCoherent)
    (otherCoherent : other.current.IsCoherent) (saved : other.saved.length = session.saved.length)
    (step : Step) :
    (other.step step).reply =
      (session.step step).reply.assign name (other.current.defaults.find? name) := by
  have extracts := agrees.extract_outcome unknown coherent otherCoherent
  cases step with
  | validator | default => rfl
  | extract subject =>
    change Reply.ofExcept .result (other.current.extract subject).outcome =
      (Reply.ofExcept .result (session.current.extract subject).outcome).assign name _
    rw [extracts]
    cases (session.current.extract subject).outcome <;> rfl
  | isMatch subject =>
    change Reply.ofExcept .truth ((other.current.extract subject).outcome.map (·.isMatched)) =
      (Reply.ofExcept .truth
        ((session.current.extract subject).outcome.map (·.isMatched))).assign name _
    rw [extracts]
    cases (session.current.extract subject).outcome with
    | ok result => exact congrArg Reply.truth (MatchResult.isMatched_assign name _ result)
    | error => rfl
  | source =>
    change Reply.ofExcept .text other.current.source.outcome =
      (Reply.ofExcept .text session.current.source.outcome).assign name _
    rw [coherent.source_outcome, otherCoherent.source_outcome, agrees.compile unknown]
    cases session.current.compile <;> rfl
  | placeholders => exact congrArg Reply.names agrees.placeholders
  | template => exact congrArg Reply.text agrees.template
  | save => exact congrArg (fun count => Reply.saved (count + 1)) saved
  | restore =>
    obtain ⟨pattern, patterns⟩ := session
    obtain ⟨otherPattern, otherPatterns⟩ := other
    cases patterns with
    | nil =>
      obtain rfl := List.eq_nil_of_length_eq_zero saved
      rfl
    | cons =>
      cases otherPatterns with
      | nil => contradiction
      | cons => exact congrArg Reply.saved (Nat.succ.inj saved)

/-- Changes for one name make no difference for what the pattern in use holds for the others. -/
theorem agreesApartFrom_after (extended : IsExtension (fun _ key => key = name) before longer) :
    Pattern.AgreesApartFrom name ((ofTemplate template).after before).current
      ((ofTemplate template).after longer).current where
  template := by rw [template_after, template_after]
  settings setting key different := by
    rw [find?_settings_after, find?_settings_after, extended.inForce?_eq different]

theorem length_saved_after (template : String) (steps : List Step) :
    ((ofTemplate template).after steps).saved.length = (Histories.after steps).saved.length :=
  (isTraced_after template steps).2.length_eq

/-- The answer to a step is the one without the changes that are put in, with the default value in
force under their name. -/
theorem reply_of_isExtension (unknown : name ∉ placeholderNames (tokenize template))
    (extended : IsExtension (fun _ key => key = name) before longer) (step : Step) :
    (((ofTemplate template).after longer).step step).reply =
      (((ofTemplate template).after before).step step).reply.assign name
        (inForce? .default longer name) := by
  have saved : ((ofTemplate template).after longer).saved.length =
      ((ofTemplate template).after before).saved.length := by
    rw [length_saved_after, length_saved_after]
    exact extended.agreeExcept_after.saved.length_eq.symm
  have names : ((ofTemplate template).after before).current.placeholders =
      placeholderNames (tokenize template) := by rw [Pattern.placeholders, template_after]
  have held : ((ofTemplate template).after longer).current.defaults.find? =
      inForce? .default longer := find?_settings_after .default
  rw [reply_eq_assign (agreesApartFrom_after extended) (by rwa [names])
    (isTraced_after template before).1.2 (isTraced_after template longer).1.2 saved, held]

/-- Validators for a name that is no placeholder can be put in anywhere before a step without any effect
on the answer, even if they cannot be compiled. Default values for it, and validators as well, change
nothing but the value of the name in a match, which is the default value in force at the step. -/
theorem run_reply_of_isExtension (template name : String)
    (unknown : name ∉ placeholderNames (tokenize template)) (before longer : List Step) (step : Step)
    (later longerLater : List Step) :
    ∃ turn longerTurn,
      ((ofTemplate template).run (before ++ step :: later))[before.length]? = some turn ∧
      ((ofTemplate template).run (longer ++ step :: longerLater))[longer.length]? =
        some longerTurn ∧
      (IsExtension (fun setting key => setting = .validator ∧ key = name) before longer →
        longerTurn.reply = turn.reply) ∧
      (IsExtension (fun _ key => key = name) before longer →
        longerTurn.reply = turn.reply.assign name (inForce? .default longer name)) := by
  refine ⟨_, _, getElem?_run _ before step later, getElem?_run _ longer step longerLater, ?_, ?_⟩
  · intro extended
    -- With validators alone put in, both answers hold the default value that was in force before.
    have wide : IsExtension (fun _ key => key = name) before longer :=
      extended.mono fun _ _ varied => varied.2
    have held : inForce? .default longer name = inForce? .default before name :=
      extended.inForce?_eq (by simp)
    rw [reply_of_isExtension unknown wide step, held]
    exact (reply_of_isExtension unknown (.refl _ before) step).symm
  · intro extended
    exact reply_of_isExtension unknown extended step

/-- The pattern is saved with the default value that was put in last, and it is restored after another
one has been put in; a broken validator is put in at the start and directly before the match. -/
theorem run_reply_of_isExtension_restored :
    let before : List Step := [.default "cd" "x", .save, .isMatch "a", .restore]
    let checked : List Step := .validator "cd" "(" :: before ++ [.validator "cd" "("]
    let longer : List Step := [.default "cd" "x", .default "cd" "y", .save, .validator "cd" "(",
      .default "cd" "z", .isMatch "a", .restore]
    "cd" ∉ placeholderNames (tokenize "{ab}") ∧
      IsExtension (fun setting key => setting = .validator ∧ key = "cd") before checked ∧
      IsExtension (fun _ key => key = "cd") before longer ∧
      ((ofTemplate "{ab}").run (before ++ .extract "a" :: []))[before.length]?.map (·.reply) =
        some (.result (.matched (.ofList [("ab", "a"), ("cd", "x")]))) ∧
      ((ofTemplate "{ab}").run (checked ++ .extract "a" :: []))[checked.length]?.map (·.reply) =
        some (.result (.matched (.ofList [("ab", "a"), ("cd", "x")]))) ∧
      ((ofTemplate "{ab}").run (longer ++ .extract "a" :: []))[longer.length]?.map (·.reply) =
        some (.result (.matched (.ofList [("ab", "a"), ("cd", "y")]))) := by
  intro before checked longer
  have unknown : "cd" ∉ placeholderNames (tokenize "{ab}") := by decide +kernel
  have validators : IsExtension (fun setting key => setting = .validator ∧ key = "cd") before
      checked := by
    refine .insert rfl ⟨rfl, rfl⟩ (.keep _ (.keep _ (.keep _ (.keep _ ?_))))
    exact .insert rfl ⟨rfl, rfl⟩ .nil
  have defaults : IsExtension (fun _ key => key = "cd") before longer := by
    refine .keep _ (.insert rfl rfl (.keep _ ?_))
    exact .insert rfl rfl (.insert rfl rfl (.keep _ (.keep _ .nil)))
  have evaluated :
      ((ofTemplate "{ab}").run (before ++ .extract "a" :: []))[before.length]?.map (·.reply) =
        some (.result (.matched (.ofList [("ab", "a"), ("cd", "x")]))) := by decide +kernel
  obtain ⟨turn, checkedTurn, found, foundChecked, same, _⟩ :=
    run_reply_of_isExtension "{ab}" "cd" unknown before checked (.extract "a") [] []
  obtain ⟨again, longerTurn, foundAgain, foundLonger, _, assigned⟩ :=
    run_reply_of_isExtension "{ab}" "cd" unknown before longer (.extract "a") [] []
  obtain rfl : turn = again := Option.some.inj (found.symm.trans foundAgain)
  have reply : turn.reply = .result (.matched (.ofList [("ab", "a"), ("cd", "x")])) := by
    rw [found] at evaluated
    exact Option.some.inj evaluated
  refine ⟨unknown, validators, defaults, evaluated, ?_, ?_⟩
  · rw [foundChecked, Option.map_some, same validators, reply]
  · rw [foundLonger, Option.map_some, assigned defaults, reply]
    decide +kernel

end Session

end TextTemplate
