import TextTemplate.Proofs.Pattern.Coherence
import TextTemplate.Proofs.Pattern.Extraction
import TextTemplate.Proofs.Session.Configuration
import TextTemplate.Proofs.Template.Decoding

/-!
# Entries for names that are no placeholders

Compiling a pattern looks up the names of its placeholders only. Patterns that differ in what they
hold for another name have the same compiled form, they fail alike and they match the same subjects.
A default value for such a name goes into every result as it is. -/

namespace TextTemplate

def MatchResult.assign (name : String) (value? : Option String) : MatchResult → MatchResult
  | matched values => matched (values.assign name value?)
  | unmatched => unmatched

@[simp] theorem MatchResult.isMatched_assign (name : String) (value? : Option String)
    (result : MatchResult) : (result.assign name value?).isMatched = result.isMatched := by
  cases result <;> rfl

theorem compileValidators_congr {validators other : Bindings} {names : List String}
    (agree : ∀ name ∈ names, other.find? name = validators.find? name) :
    compileValidators other names = compileValidators validators names := by
  induction names with
  | nil => rfl
  | cons name names ih =>
    obtain ⟨here, behind⟩ := List.forall_mem_cons.mp agree
    rw [compileValidators, compileValidators, here, ih behind]

namespace Compiled

variable {compiled : Compiled} {template name : String}
  {validators defaults otherValidators otherDefaults : Bindings}

/-- The entries for the placeholders are all that matters for compiling a template. -/
theorem ofTemplate_congr
    (validatorsAgree : ∀ name ∈ placeholderNames (tokenize template),
      otherValidators.find? name = validators.find? name)
    (defaultsAgree : ∀ name ∈ placeholderNames (tokenize template),
      otherDefaults.find? name = defaults.find? name) :
    ofTemplate template otherValidators otherDefaults =
      ofTemplate template validators defaults := by
  have sources : templateSource otherDefaults.contains (tokenize template) =
      templateSource defaults.contains (tokenize template) := by
    apply templateSource_congr
    intro name listed
    exact congrArg Option.isSome (defaultsAgree name listed)
  simp only [ofTemplate, sources, compileValidators_congr validatorsAgree]

/-- A default value for a name that is no placeholder goes into the result as it is. -/
theorem extract_eq_assign (distinct : compiled.names.Nodup) (unknown : name ∉ compiled.names)
    (agree : ∀ key, key ≠ name → otherDefaults.find? key = defaults.find? key) (subject : String) :
    (compiled.extract otherDefaults subject).1 =
      (compiled.extract defaults subject).1.assign name (otherDefaults.find? name) := by
  unfold extract
  dsimp only
  split
  · rfl
  · next captures _ =>
    have once := distinct.sublist
      (map_fst_capturedValues_sublist subject.toList.toArray captures compiled.names)
    have absent : (capturedValues subject.toList.toArray captures compiled.names).lookup name =
        none := by
      rw [lookup_capturedValues, if_neg unknown]
    split
    · rfl
    · exact congrArg MatchResult.matched (Bindings.foldl_insert_eq_assign once absent agree)

end Compiled

namespace Pattern

variable {pattern other : Pattern} {name : String}

/-- The patterns have the same template, and they are configured alike up to what they hold for a
name. -/
structure AgreesApartFrom (name : String) (pattern other : Pattern) : Prop where
  template : other.template = pattern.template
  settings : ∀ setting key, key ≠ name →
    (other.settings setting).find? key = (pattern.settings setting).find? key

namespace AgreesApartFrom

theorem placeholders (agrees : AgreesApartFrom name pattern other) :
    other.placeholders = pattern.placeholders :=
  congrArg (fun template => placeholderNames (tokenize template)) agrees.template

/-- What is held for a name that is no placeholder makes no difference for compiling. -/
theorem compile (agrees : AgreesApartFrom name pattern other)
    (unknown : name ∉ pattern.placeholders) : other.compile = pattern.compile := by
  have different : ∀ key ∈ placeholderNames (tokenize pattern.template), key ≠ name := by
    intro key listed same
    subst same
    exact unknown listed
  rw [Pattern.compile, Pattern.compile, agrees.template]
  apply Compiled.ofTemplate_congr
  · intro key listed
    exact agrees.settings .validator key (different key listed)
  · intro key listed
    exact agrees.settings .default key (different key listed)

/-- The results of a match differ at most in the value of the name, which is its default value. -/
theorem extract_outcome (agrees : AgreesApartFrom name pattern other)
    (unknown : name ∉ pattern.placeholders) (coherent : pattern.IsCoherent)
    (otherCoherent : other.IsCoherent) (subject : String) :
    (other.extract subject).outcome =
      (pattern.extract subject).outcome.map (·.assign name (other.defaults.find? name)) := by
  rw [coherent.extract_outcome, otherCoherent.extract_outcome, agrees.compile unknown]
  cases compiles : pattern.compile with
  | error error => rfl
  | ok compiled =>
    have distinct := Compiled.nodup_names compiles
    have names := Compiled.names_of_ofTemplate compiles
    have assigned := Compiled.extract_eq_assign distinct (by rwa [names]) (agrees.settings .default)
      subject
    exact congrArg Except.ok assigned

end AgreesApartFrom

end Pattern

end TextTemplate
