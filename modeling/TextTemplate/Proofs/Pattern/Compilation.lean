import Mathlib.Data.List.Nodup
import TextTemplate.Pattern.Basic
import TextTemplate.Proofs.Reading.Result
import TextTemplate.Proofs.Template.Groups

/-!
# Compiling patterns

The names of a template's placeholders are checked first. If they are distinct, the text of the
template's expression has no fault: the template can only be refused for its weight. The validators
come last. -/

namespace TextTemplate

theorem firstRepeatedFrom?_eq_none_iff {seen names : List String} :
    firstRepeatedFrom? seen names = none ↔ names.Nodup ∧ ∀ name ∈ names, name ∉ seen := by
  induction names generalizing seen with
  | nil => simp [firstRepeatedFrom?]
  | cons name names ih =>
    unfold firstRepeatedFrom?
    split
    · next found =>
      have repeated : name ∈ seen := by simpa using found
      simp [repeated]
    · next fresh =>
      have absent : name ∉ seen := by simpa using fresh
      simp only [ih, List.nodup_cons, List.mem_cons, not_or]
      grind

/-- No name is found to be repeated if all of them are distinct. -/
theorem firstRepeated?_eq_none_iff {names : List String} :
    firstRepeated? names = none ↔ names.Nodup := by
  simp [firstRepeated?, firstRepeatedFrom?_eq_none_iff]

/-- The text of a template's expression has no fault. -/
theorem compile_templateSource (template : String) (hasDefault : String → Bool)
    (distinct : (placeholderNames (tokenize template)).Nodup) :
    Expr.compile (templateSource hasDefault (tokenize template)) =
      if (templateExpr hasDefault (tokenize template)).isTooHeavy then .error .tooHeavy
      else .ok (templateExpr hasDefault (tokenize template)) := by
  rw [Expr.compile,
    read_templateSource hasDefault (fun _ => Token.isNamed_of_mem_tokenize) distinct, templateExpr]

namespace Compiled

@[simp] theorem names_templateExpr (source : String) (hasDefault : String → Bool)
    (tokens : List Token) (validators : List (String × Expr)) :
    (⟨source, templateExpr hasDefault tokens, validators⟩ : Compiled).names =
      placeholderNames tokens := by
  rw [names, captureNames_templateExpr, List.filterMap_map]
  exact List.filterMap_some

/-- A template whose placeholders have distinct names and whose expression is not too heavy is
compiled unless one of the validators is at fault. -/
theorem ofTemplate_eq (template : String) (validators defaults : Bindings)
    (distinct : (placeholderNames (tokenize template)).Nodup)
    (light : (templateExpr defaults.contains (tokenize template)).isTooHeavy = false) :
    ofTemplate template validators defaults =
      (compileValidators validators (placeholderNames (tokenize template))).map fun validators =>
        ⟨String.ofList (templateSource defaults.contains (tokenize template)),
          templateExpr defaults.contains (tokenize template), validators⟩ := by
  have none := firstRepeated?_eq_none_iff.mpr distinct
  simp only [ofTemplate, none, compile_templateSource template _ distinct, light]
  cases compileValidators validators (placeholderNames (tokenize template)) <;> rfl

/-- A template whose placeholders have distinct names is refused if its expression is too heavy. -/
theorem ofTemplate_eq_tooHeavy (template : String) (validators defaults : Bindings)
    (distinct : (placeholderNames (tokenize template)).Nodup)
    (heavy : (templateExpr defaults.contains (tokenize template)).isTooHeavy = true) :
    ofTemplate template validators defaults = .error (.template .tooHeavy) := by
  have none := firstRepeated?_eq_none_iff.mpr distinct
  simp only [ofTemplate, none, compile_templateSource template _ distinct, heavy]
  rfl

/-- A template with two placeholders of one name is refused. -/
theorem exists_ofTemplate_eq_duplicate (template : String) (validators defaults : Bindings)
    (repeated : ¬ (placeholderNames (tokenize template)).Nodup) :
    ∃ name, ofTemplate template validators defaults = .error (.duplicatePlaceholder name) := by
  obtain ⟨name, found⟩ :=
    Option.ne_none_iff_exists'.mp (mt firstRepeated?_eq_none_iff.mp repeated)
  refine ⟨name, ?_⟩
  simp only [ofTemplate, found]
  rfl

/-- What is compiled consists of the template's expression and the compiled validators. -/
theorem ofTemplate_eq_ok_iff {template : String} {validators defaults : Bindings}
    {compiled : Compiled} :
    ofTemplate template validators defaults = .ok compiled ↔
      (placeholderNames (tokenize template)).Nodup ∧
        (templateExpr defaults.contains (tokenize template)).isTooHeavy = false ∧
        ∃ checks, compileValidators validators (placeholderNames (tokenize template)) = .ok checks ∧
          compiled = ⟨String.ofList (templateSource defaults.contains (tokenize template)),
            templateExpr defaults.contains (tokenize template), checks⟩ := by
  constructor
  · intro compiles
    have distinct : (placeholderNames (tokenize template)).Nodup := by
      by_contra repeated
      obtain ⟨name, refused⟩ :=
        exists_ofTemplate_eq_duplicate template validators defaults repeated
      exact nomatch compiles.symm.trans refused
    have light : (templateExpr defaults.contains (tokenize template)).isTooHeavy = false := by
      by_contra heavy
      have refused := ofTemplate_eq_tooHeavy template validators defaults distinct
        ((Bool.not_eq_false _).mp heavy)
      exact nomatch compiles.symm.trans refused
    rw [ofTemplate_eq template validators defaults distinct light] at compiles
    cases checks : compileValidators validators (placeholderNames (tokenize template)) with
    | error error => rw [checks] at compiles; contradiction
    | ok list =>
      rw [checks] at compiles
      exact ⟨distinct, light, list, rfl, (Except.ok.inj compiles).symm⟩
  · rintro ⟨distinct, light, checks, found, rfl⟩
    rw [ofTemplate_eq template validators defaults distinct light, found]
    rfl

section Parts

variable {template : String} {validators defaults : Bindings} {compiled : Compiled}

/-- The groups of what is compiled are the placeholders of the template. -/
theorem names_of_ofTemplate (compiles : ofTemplate template validators defaults = .ok compiled) :
    compiled.names = placeholderNames (tokenize template) := by
  obtain ⟨_, _, _, _, rfl⟩ := ofTemplate_eq_ok_iff.mp compiles
  exact names_templateExpr ..

theorem source_of_ofTemplate (compiles : ofTemplate template validators defaults = .ok compiled) :
    compiled.source = String.ofList (templateSource defaults.contains (tokenize template)) := by
  obtain ⟨_, _, _, _, rfl⟩ := ofTemplate_eq_ok_iff.mp compiles
  rfl

/-- The names of a compiled pattern are distinct. -/
theorem nodup_names (compiles : ofTemplate template validators defaults = .ok compiled) :
    compiled.names.Nodup := by
  rw [names_of_ofTemplate compiles]
  exact (ofTemplate_eq_ok_iff.mp compiles).1

end Parts

/-- Only what is captured, the names and the validators matter for a match. -/
theorem extract_eq {compiled other : Compiled} {subject : String}
    (captures : other.expr.captures? subject.toList.toArray =
      compiled.expr.captures? subject.toList.toArray)
    (names : other.names = compiled.names) (validators : other.validators = compiled.validators)
    (defaults : Bindings) :
    other.extract defaults subject = compiled.extract defaults subject := by
  simp only [extract, firstRejected?, accepts, captures, names, validators]

/-- Without validators no value is rejected. -/
theorem firstRejected?_eq_none {compiled : Compiled} (none : compiled.validators = [])
    (values : List (String × String)) : compiled.firstRejected? values = .none := by
  simp [firstRejected?, accepts, none]

end Compiled

theorem Pattern.exists_compile_eq_ok {pattern : Pattern} (accepted : pattern.compile.isOk = true) :
    ∃ compiled, pattern.compile = .ok compiled := by
  cases compiles : pattern.compile with
  | error => simp [compiles, Except.isOk, Except.toBool] at accepted
  | ok compiled => exact ⟨compiled, rfl⟩

/-- The validators that are compiled are those of the names, and they are looked up by name. -/
theorem lookup_compileValidators {validators : Bindings} {names : List String}
    {checks : List (String × Expr)} (compiles : compileValidators validators names = .ok checks)
    (name : String) :
    (checks.lookup name).map .ok =
      if name ∈ names then
        (validators.find? name).map fun fragment => Expr.compile (validatorSource fragment.toList)
      else none := by
  induction names generalizing checks with
  | nil =>
    cases compiles
    rfl
  | cons other names ih =>
    unfold compileValidators at compiles
    split at compiles
    · next missing =>
      rw [ih compiles]
      by_cases same : name = other
      · simp [same, missing]
      · simp [same]
    · next fragment found =>
      split at compiles
      · contradiction
      · next validator valid =>
        simp only [bind_eq_ok_iff, pure_eq_ok_iff] at compiles
        obtain ⟨rest, others, rfl⟩ := compiles
        by_cases same : name = other
        · simp [same, found, valid]
        · rw [List.lookup_cons, beq_eq_false_iff_ne.mpr same]
          simpa [same] using ih others

/-- Without validators there is nothing to compile. -/
@[simp] theorem compileValidators_empty (names : List String) :
    compileValidators .empty names = .ok [] := by
  induction names with
  | nil => rfl
  | cons name names ih => rw [compileValidators, Bindings.find?, Bindings.empty]; exact ih

end TextTemplate
