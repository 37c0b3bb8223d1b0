import Mathlib.Data.List.Induction
import TextTemplate.Pattern.Session
import TextTemplate.Proofs.Bindings.Lookup

/-!
# Configurations and their histories

A pattern's configuration comes from the changes made to it, one after the other. A change is in
force as long as no later one sets the same name again, and the changes in force give the same
configuration in any order. In a session every pattern has a history of its own: a saved pattern
keeps the changes made before it was saved. -/

namespace TextTemplate

/-- The two parts of a pattern's configuration. -/
inductive Setting
  | validator
  | default
deriving DecidableEq, Repr

/-- A change of a configuration: a name's value in one of its parts. -/
structure Change where
  setting : Setting
  name : String
  value : String
deriving DecidableEq, Repr

namespace Change

/-- Whether two changes set the same name in the same part of a configuration. -/
def isRival (change other : Change) : Bool :=
  change.setting = other.setting && change.name = other.name

/-- The changes that no later one replaces, when the oldest one comes first. -/
def inForce : List Change → List Change
  | [] => []
  | change :: later =>
    if later.any change.isRival then inForce later else change :: inForce later

/-- The value that the last change of a name has given to it. -/
def lastValue? (setting : Setting) (name : String) : List Change → Option String
  | [] => none
  | change :: later =>
    (lastValue? setting name later).or
      (if change.setting = setting ∧ change.name = name then some change.value else none)

theorem lastValue?_eq_none_iff {setting : Setting} {name : String} {changes : List Change} :
    lastValue? setting name changes = none ↔
      ∀ change ∈ changes, ¬(change.setting = setting ∧ change.name = name) := by
  induction changes with
  | nil => simp [lastValue?]
  | cons change later ih => simp [lastValue?, ih, and_comm]

theorem any_isRival_iff {change : Change} {changes : List Change} :
    changes.any change.isRival = true ↔
      lastValue? change.setting change.name changes ≠ none := by
  rw [Ne, lastValue?_eq_none_iff]
  simp only [List.any_eq_true, isRival, Bool.and_eq_true, decide_eq_true_eq, not_forall,
    not_not, exists_prop]
  grind

/-- The values in force are those that were given last. -/
theorem mem_inForce_iff (changes : List Change) (change : Change) :
    change ∈ inForce changes ↔
      lastValue? change.setting change.name changes = some change.value := by
  induction changes with
  | nil => simp [inForce, lastValue?]
  | cons first later ih =>
    by_cases replaced : later.any first.isRival = true
    · rw [inForce, if_pos replaced, ih, lastValue?]
      obtain ⟨value, found⟩ := Option.ne_none_iff_exists'.mp (any_isRival_iff.mp replaced)
      by_cases same : first.setting = change.setting ∧ first.name = change.name
      · rw [← same.1, ← same.2, found, Option.some_or]
      · rw [if_neg same, Option.or_none]
    · rw [inForce, if_neg replaced, List.mem_cons, ih, lastValue?]
      have absent : lastValue? first.setting first.name later = none := by
        simpa only [any_isRival_iff, not_not] using replaced
      by_cases same : first.setting = change.setting ∧ first.name = change.name
      · rw [← same.1, ← same.2, absent, if_pos ⟨rfl, rfl⟩, Option.none_or]
        obtain ⟨setting, name, value⟩ := first
        obtain ⟨_, _, given⟩ := change
        obtain ⟨rfl, rfl⟩ := same
        simp [eq_comm (a := given)]
      · rw [if_neg same, Option.or_none, or_iff_right]
        rintro rfl
        exact same ⟨rfl, rfl⟩

theorem pairwise_inForce (changes : List Change) :
    (inForce changes).Pairwise fun change other => change.isRival other = false := by
  induction changes with
  | nil => exact .nil
  | cons first later ih =>
    by_cases replaced : later.any first.isRival = true
    · rwa [inForce, if_pos replaced]
    · rw [inForce, if_neg replaced, List.pairwise_cons]
      refine ⟨fun other member => ?_, ih⟩
      have absent : lastValue? first.setting first.name later = none := by
        simpa only [any_isRival_iff, not_not] using replaced
      rw [← Bool.not_eq_true]
      intro rival
      simp only [isRival, Bool.and_eq_true, decide_eq_true_eq] at rival
      have given := (mem_inForce_iff later other).mp member
      rw [← rival.1, ← rival.2, absent] at given
      contradiction

/-- Nothing is replaced among changes of different names. -/
theorem inForce_eq_self {changes : List Change}
    (distinct : changes.Pairwise fun change other => change.isRival other = false) :
    inForce changes = changes := by
  induction changes with
  | nil => rfl
  | cons first later ih =>
    obtain ⟨apart, distinct⟩ := List.pairwise_cons.mp distinct
    rw [inForce, if_neg (by simpa using apart), ih distinct]

/-- The value that was given last to a name depends on the changes of that name alone. -/
theorem lastValue?_filter (setting : Setting) (name : String) (changes : List Change) :
    lastValue? setting name
      (changes.filter fun change => change.setting = setting ∧ change.name = name) =
        lastValue? setting name changes := by
  induction changes with
  | nil => rfl
  | cons change later ih =>
    by_cases same : change.setting = setting ∧ change.name = name
    · rw [List.filter_cons_of_pos (by simpa using same), lastValue?, lastValue?, ih]
    · rw [List.filter_cons_of_neg (by simpa using same), lastValue?, ih, if_neg same,
        Option.or_none]

/-- The changes in force give the same values in any order. -/
theorem lastValue?_of_perm {order changes : List Change} (perm : order.Perm (inForce changes))
    (setting : Setting) (name : String) :
    lastValue? setting name order = lastValue? setting name changes := by
  have symmetric : ∀ {change other : Change},
      change.isRival other = false → other.isRival change = false := by
    intro change other apart
    simp only [isRival] at apart ⊢
    grind
  have distinct := (perm.pairwise_iff symmetric).mpr (pairwise_inForce changes)
  ext value
  have inOrder := mem_inForce_iff order ⟨setting, name, value⟩
  have inChanges := mem_inForce_iff changes ⟨setting, name, value⟩
  rw [inForce_eq_self distinct] at inOrder
  rw [← inOrder, ← inChanges, perm.mem_iff]

end Change

namespace Pattern

def settings (pattern : Pattern) : Setting → Bindings
  | .validator => pattern.validators
  | .default => pattern.defaults

def change (pattern : Pattern) (change : Change) : Pattern :=
  match change.setting with
  | .validator => pattern.addValidator change.name change.value
  | .default => pattern.addDefault change.name change.value

/-- A new pattern to which some changes are made, one after the other. -/
def configured (template : String) (changes : List Change) : Pattern :=
  changes.foldl change (.ofTemplate template)

theorem template_change (pattern : Pattern) (change : Change) :
    (pattern.change change).template = pattern.template := by
  unfold Pattern.change
  split <;> rfl

theorem compiled_change (pattern : Pattern) (change : Change) :
    (pattern.change change).compiled = none := by
  unfold Pattern.change
  split <;> rfl

theorem find?_settings_change (pattern : Pattern) (change : Change) (setting : Setting)
    (name : String) :
    ((pattern.change change).settings setting).find? name =
      if change.setting = setting ∧ change.name = name then some change.value
      else (pattern.settings setting).find? name := by
  obtain ⟨changed, changedName, value⟩ := change
  cases changed <;> cases setting <;>
    simp [Pattern.change, settings, addValidator, addDefault, eq_comm]

theorem configured_append (template : String) (changes : List Change) (change : Change) :
    configured template (changes ++ [change]) = (configured template changes).change change := by
  simp [configured]

@[simp] theorem template_configured (template : String) (changes : List Change) :
    (configured template changes).template = template := by
  induction changes using List.reverseRecOn with
  | nil => rfl
  | append_singleton changes change ih => rw [configured_append, template_change, ih]

@[simp] theorem compiled_configured (template : String) (changes : List Change) :
    (configured template changes).compiled = none := by
  induction changes using List.reverseRecOn with
  | nil => rfl
  | append_singleton changes change _ => rw [configured_append, compiled_change]

/-- A configuration holds the values that were given last. -/
theorem find?_settings_configured (template : String) (changes : List Change) (setting : Setting)
    (name : String) :
    ((configured template changes).settings setting).find? name =
      Change.lastValue? setting name changes := by
  have general : ∀ pattern : Pattern, ((changes.foldl change pattern).settings setting).find? name =
      (Change.lastValue? setting name changes).or ((pattern.settings setting).find? name) := by
    induction changes with
    | nil => intro pattern; rfl
    | cons first later ih =>
      intro pattern
      rw [List.foldl_cons, ih, find?_settings_change, Change.lastValue?, Option.or_assoc]
      split <;> rfl
  have start : ((ofTemplate template).settings setting).find? name = none := by
    cases setting <;> rfl
  rw [configured, general, start, Option.or_none]

theorem ext_settings {pattern other : Pattern} (templates : pattern.template = other.template)
    (compiled : pattern.compiled = other.compiled)
    (settings : ∀ setting name,
      (pattern.settings setting).find? name = (other.settings setting).find? name) :
    pattern = other := by
  have validators := Bindings.ext_find? (settings .validator)
  have defaults := Bindings.ext_find? (settings .default)
  cases pattern
  cases other
  simp_all [Pattern.settings]

/-- The changes in force lead to the same pattern as the whole history, in any order. -/
theorem configured_of_perm {order changes : List Change}
    (perm : order.Perm (Change.inForce changes)) (template : String) :
    configured template order = configured template changes := by
  apply ext_settings (by simp) (by simp)
  intro setting name
  rw [find?_settings_configured, find?_settings_configured, Change.lastValue?_of_perm perm]

/-- Changes of different names lead to the same pattern in any order. -/
theorem configured_of_filter_eq {changes other : List Change}
    (same : ∀ setting name,
      (changes.filter fun change => change.setting = setting ∧ change.name = name) =
        other.filter fun change => change.setting = setting ∧ change.name = name)
    (template : String) : configured template changes = configured template other := by
  apply ext_settings (by simp) (by simp)
  intro setting name
  rw [find?_settings_configured, find?_settings_configured, ← Change.lastValue?_filter, same,
    Change.lastValue?_filter]

end Pattern

/-- The changes made to the pattern of a session that is in use, and those made to each saved one
until it was saved, with the pattern saved last first. -/
structure Histories where
  current : List Change
  saved : List (List Change)
deriving DecidableEq, Repr

namespace Histories

def step (histories : Histories) : Step → Histories
  | .validator name fragment =>
    { histories with current := histories.current ++ [⟨.validator, name, fragment⟩] }
  | .default name value =>
    { histories with current := histories.current ++ [⟨.default, name, value⟩] }
  | .save => { histories with saved := histories.current :: histories.saved }
  | .restore =>
    match histories.saved with
    | [] => histories
    | current :: saved => ⟨current, saved⟩
  | _ => histories

def after (steps : List Step) : Histories := steps.foldl step ⟨[], []⟩

end Histories

end TextTemplate
