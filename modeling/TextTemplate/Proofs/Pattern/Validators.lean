import Mathlib.Data.List.Perm.Basic
import TextTemplate.Proofs.Pattern.Extraction
import TextTemplate.Proofs.Validator.Acceptance

/-!
# What validators do

A validator only filters. It turns a match into none if its placeholder has captured a text that it
does not accept, and otherwise it leaves the result alone: it changes neither what is captured nor
what another validator says. The order in which validators are set makes no difference. -/

namespace TextTemplate

/-- The validator of a fragment does not accept a text. -/
def IsRejectedBy (fragment text : String) : Prop :=
  ∃ validator, Expr.compile (validatorSource fragment.toList) = .ok validator ∧
    validator.isMatch text.toList.toArray = false

instance (fragment text : String) : Decidable (IsRejectedBy fragment text) :=
  decidable_of_iff (∃ validator ∈ (Expr.compile (validatorSource fragment.toList)).toOption,
      validator.isMatch text.toList.toArray = false) <| by
    cases made : Expr.compile (validatorSource fragment.toList) <;>
      simp [IsRejectedBy, made, Except.toOption]

namespace Compiled

variable {compiled : Compiled}

/-- The text that a placeholder captures in a subject, unless it captures nothing or the empty
text. -/
def captured? (compiled : Compiled) (subject name : String) : Option String :=
  if name ∈ compiled.names then
    (compiled.expr.captures? subject.toList.toArray).bind fun captures =>
      capturedValue? subject.toList.toArray captures name
  else none

/-- The placeholder captures a text that is not empty and that the validator of a fragment does not
accept. -/
def IsRefused (compiled : Compiled) (subject name fragment : String) : Prop :=
  ∃ text, compiled.captured? subject name = some text ∧ IsRejectedBy fragment text

theorem mem_capturedValues_iff {text : Array Char} {captures : List Capture} {names : List String}
    {name value : String} :
    (name, value) ∈ capturedValues text captures names ↔
      name ∈ names ∧ capturedValue? text captures name = some value := by
  simp only [capturedValues_eq_filterMap, List.mem_filterMap, Option.map_eq_some_iff, Prod.mk.injEq]
  constructor
  · rintro ⟨_, member, _, found, rfl, rfl⟩
    exact ⟨member, found⟩
  · rintro ⟨member, found⟩
    exact ⟨name, member, value, found, rfl, rfl⟩

theorem captured?_eq_some_iff {subject name value : String} :
    compiled.captured? subject name = some value ↔
      ∃ captures, compiled.expr.captures? subject.toList.toArray = some captures ∧
        (name, value) ∈ capturedValues subject.toList.toArray captures compiled.names := by
  simp only [captured?, mem_capturedValues_iff, Option.ite_none_right_eq_some,
    Option.bind_eq_some_iff]
  exact ⟨fun ⟨listed, captures, found, same⟩ => ⟨captures, found, listed, same⟩,
    fun ⟨captures, found, listed, same⟩ => ⟨listed, captures, found, same⟩⟩

theorem mem_names_of_captured? {subject name value : String}
    (captured : compiled.captured? subject name = some value) : name ∈ compiled.names := by
  by_contra absent
  rw [captured?, if_neg absent] at captured
  contradiction

theorem firstRejected?_eq_none_iff {values : List (String × String)} :
    compiled.firstRejected? values = none ↔
      ∀ name value, (name, value) ∈ values → compiled.accepts name value = true := by
  simp [firstRejected?]

def unchecked (compiled : Compiled) : Compiled := { compiled with validators := [] }

@[simp] theorem expr_unchecked (compiled : Compiled) :
    compiled.unchecked.expr = compiled.expr := rfl

@[simp] theorem names_unchecked (compiled : Compiled) :
    compiled.unchecked.names = compiled.names := rfl

@[simp] theorem firstRejected?_unchecked (compiled : Compiled) (values : List (String × String)) :
    compiled.unchecked.firstRejected? values = none := firstRejected?_eq_none rfl values

/-- If every captured text is accepted, the result is the one without validators. -/
theorem extract_of_accepted {subject : String} (defaults : Bindings)
    (accepted : ∀ name value, compiled.captured? subject name = some value →
      compiled.accepts name value = true) :
    (compiled.extract defaults subject).1 = (compiled.unchecked.extract defaults subject).1 := by
  cases found : compiled.expr.captures? subject.toList.toArray with
  | none => simp only [extract, expr_unchecked, found]
  | some captures =>
    have nothing := firstRejected?_eq_none_iff.mpr fun name value member =>
      accepted name value (captured?_eq_some_iff.mpr ⟨captures, found, member⟩)
    simp only [extract, expr_unchecked, names_unchecked, found, nothing, firstRejected?_unchecked]

/-- If a captured text is not accepted, the subject does not match. -/
theorem extract_of_rejected {subject name value : String} (defaults : Bindings)
    (captured : compiled.captured? subject name = some value)
    (rejected : compiled.accepts name value = false) :
    (compiled.extract defaults subject).1 = .unmatched := by
  obtain ⟨captures, found, member⟩ := captured?_eq_some_iff.mp captured
  unfold extract
  simp only [found]
  split
  · rfl
  · next none =>
    have accepted := firstRejected?_eq_none_iff.mp none name value member
    exact absurd (rejected.symm.trans accepted) Bool.false_ne_true

/-- A value is not accepted if the validator of the name's fragment rejects it. -/
theorem accepts_eq_false_iff_exists {template : String} {validators defaults : Bindings}
    (compiles : ofTemplate template validators defaults = .ok compiled) {name : String}
    (listed : name ∈ compiled.names) (value : String) :
    compiled.accepts name value = false ↔
      ∃ fragment, validators.find? name = some fragment ∧ IsRejectedBy fragment value := by
  rw [names_of_ofTemplate compiles] at listed
  obtain ⟨_, _, checks, found, rfl⟩ := ofTemplate_eq_ok_iff.mp compiles
  have looked := lookup_compileValidators found name
  rw [if_pos listed] at looked
  cases given : validators.find? name with
  | none =>
    rw [given, Option.map_none, Option.map_eq_none_iff] at looked
    simp [accepts, looked]
  | some fragment =>
    rw [given, Option.map_some, Option.map_eq_some_iff] at looked
    obtain ⟨validator, kept, valid⟩ := looked
    simp [accepts, kept, IsRejectedBy, ← valid]

section Insert

variable {template name fragment : String} {validators defaults : Bindings} {checked : Compiled}

/-- With a validator for a name that has none, a value of the name is rejected if this validator
does not accept it, and the other values are judged as before. -/
theorem accepts_eq_false_iff (absent : validators.find? name = none)
    (compiles : ofTemplate template validators defaults = .ok compiled)
    (compilesChecked : ofTemplate template (validators.insert name fragment) defaults = .ok checked)
    {key : String} (listed : key ∈ compiled.names) (value : String) :
    checked.accepts key value = false ↔
      compiled.accepts key value = false ∨ key = name ∧ IsRejectedBy fragment value := by
  have listed' : key ∈ checked.names := by
    rwa [names_of_ofTemplate compilesChecked, ← names_of_ofTemplate compiles]
  rw [accepts_eq_false_iff_exists compilesChecked listed',
    accepts_eq_false_iff_exists compiles listed, Bindings.find?_insert]
  by_cases same : key = name
  · simp [same, absent]
  · simp [same]

/-- A validator does not change the expression and the names. -/
theorem expr_eq_of_ofTemplate {otherValidators : Bindings}
    (compiles : ofTemplate template validators defaults = .ok compiled)
    (compilesChecked : ofTemplate template otherValidators defaults = .ok checked) :
    checked.expr = compiled.expr ∧ checked.names = compiled.names := by
  obtain ⟨_, _, _, _, rfl⟩ := ofTemplate_eq_ok_iff.mp compiles
  obtain ⟨_, _, _, _, rfl⟩ := ofTemplate_eq_ok_iff.mp compilesChecked
  exact ⟨rfl, rfl⟩

/-- A validator for a name that has none turns a match into none if it does not accept the text that
the name's placeholder has captured, and otherwise it leaves the result as it is. -/
theorem extract_insert_validator (absent : validators.find? name = none)
    (compiles : ofTemplate template validators defaults = .ok compiled)
    (compilesChecked : ofTemplate template (validators.insert name fragment) defaults = .ok checked)
    (subject : String) :
    (compiled.IsRefused subject name fragment →
        (checked.extract defaults subject).1 = .unmatched) ∧
      (¬ compiled.IsRefused subject name fragment →
        (checked.extract defaults subject).1 = (compiled.extract defaults subject).1) := by
  obtain ⟨expr, names⟩ := expr_eq_of_ofTemplate compiles compilesChecked
  have captures : ∀ key, checked.captured? subject key = compiled.captured? subject key := by
    simp [captured?, expr, names]
  have rejects : ∀ {key value : String}, compiled.captured? subject key = some value →
      (checked.accepts key value = false ↔
        compiled.accepts key value = false ∨ key = name ∧ IsRejectedBy fragment value) :=
    fun captured => accepts_eq_false_iff absent compiles compilesChecked
      (mem_names_of_captured? captured) _
  constructor
  · rintro ⟨text, captured, rejected⟩
    exact extract_of_rejected defaults ((captures name).trans captured)
      ((rejects captured).mpr (.inr ⟨rfl, rejected⟩))
  · intro notRefused
    by_cases accepted : ∀ key value, compiled.captured? subject key = some value →
        compiled.accepts key value = true
    · -- Nothing is rejected with or without the new validator.
      have checkedAccepted : ∀ key value, checked.captured? subject key = some value →
          checked.accepts key value = true := by
        intro key value captured
        rw [captures] at captured
        by_contra rejected
        rcases (rejects captured).mp ((Bool.not_eq_true _).mp rejected) with before | ⟨rfl, new⟩
        · exact Bool.false_ne_true (before.symm.trans (accepted key value captured))
        · exact notRefused ⟨value, captured, new⟩
      have sameCaptures : checked.unchecked.expr.captures? subject.toList.toArray =
          compiled.unchecked.expr.captures? subject.toList.toArray := by
        simp only [expr_unchecked, expr]
      have same : checked.unchecked.extract defaults subject =
          compiled.unchecked.extract defaults subject :=
        extract_eq sameCaptures names rfl defaults
      rw [extract_of_accepted defaults accepted, extract_of_accepted defaults checkedAccepted, same]
    · -- What another validator rejects stays rejected.
      push Not at accepted
      obtain ⟨key, value, captured, rejected⟩ := accepted
      have before := (Bool.not_eq_true _).mp rejected
      rw [extract_of_rejected defaults captured before,
        extract_of_rejected defaults ((captures key).trans captured)
          ((rejects captured).mpr (.inl before))]

end Insert

end Compiled

namespace Pattern

variable {pattern : Pattern} {compiled checked : Compiled} {name fragment : String}

def addValidators (pairs : List (String × String)) (pattern : Pattern) : Pattern :=
  pairs.foldl (fun pattern pair => pattern.addValidator pair.1 pair.2) pattern

theorem addValidator_comm (pattern : Pattern) {name other : String} (different : name ≠ other)
    (fragment otherFragment : String) :
    (pattern.addValidator name fragment).addValidator other otherFragment =
      (pattern.addValidator other otherFragment).addValidator name fragment := by
  have validators : (pattern.validators.insert name fragment).insert other otherFragment =
      (pattern.validators.insert other otherFragment).insert name fragment := by
    apply Bindings.ext_find?
    intro key
    simp only [Bindings.find?_insert]
    by_cases same : key = name
    · subst same
      simp [different]
    · simp [same]
  simp only [addValidator, validators]

/-- The order in which validators of different names are set makes no difference. -/
theorem addValidators_of_perm {first second : List (String × String)} (perm : first.Perm second)
    (distinct : (first.map Prod.fst).Nodup) (pattern : Pattern) :
    pattern.addValidators first = pattern.addValidators second := by
  refine perm.foldl_eq' (fun pair member other otherMember pattern => ?_) pattern
  by_cases same : pair.1 = other.1
  · rw [List.inj_on_of_nodup_map distinct member otherMember same]
  · exact addValidator_comm pattern same pair.2 other.2

/-- A validator for a name that has none only filters: it turns a match into none if the name's
placeholder has captured a text that is not empty and that it does not accept, and otherwise it
leaves the result as it is. The order in which validators are set makes no difference. -/
theorem extract_addValidator (coherent : pattern.IsCoherent)
    (absent : pattern.validators.find? name = none) (compiles : pattern.compile = .ok compiled)
    (compilesChecked : (pattern.addValidator name fragment).compile = .ok checked)
    (subject : String) :
    (∃ result, (pattern.extract subject).outcome = .ok result ∧
        (compiled.IsRefused subject name fragment →
          ((pattern.addValidator name fragment).extract subject).outcome = .ok .unmatched) ∧
        (¬ compiled.IsRefused subject name fragment →
          ((pattern.addValidator name fragment).extract subject).outcome = .ok result)) ∧
      checked.expr = compiled.expr ∧
      ∀ first second : List (String × String), first.Perm second → (first.map Prod.fst).Nodup →
        ((pattern.addValidators first).extract subject).outcome =
          ((pattern.addValidators second).extract subject).outcome := by
  have checkedCoherent : (pattern.addValidator name fragment).IsCoherent :=
    isCoherent_of_compiled_eq_none rfl
  obtain ⟨refused, kept⟩ :=
    Compiled.extract_insert_validator absent compiles compilesChecked subject
  have outcome := checkedCoherent.extract_outcome subject
  rw [compilesChecked] at outcome
  refine ⟨⟨(compiled.extract pattern.defaults subject).1, ?_, fun refuses => ?_, fun accepts => ?_⟩,
    (Compiled.expr_eq_of_ofTemplate compiles compilesChecked).1,
    fun first second perm distinct => ?_⟩
  · rw [coherent.extract_outcome, compiles]
    rfl
  · exact outcome.trans (congrArg Except.ok (refused refuses))
  · exact outcome.trans (congrArg Except.ok (kept accepts))
  · rw [addValidators_of_perm perm distinct]

/-- The value of the first placeholder does not satisfy the added validator; the second placeholder
captures nothing, and its validator does not see its default value. -/
theorem extract_addValidator_rejects :
    ∃ pattern compiled checked,
      pattern = ((ofTemplate "{ab}-{cd}").addValidator "cd" "y+").addDefault "cd" "z" ∧
      pattern.IsCoherent ∧ pattern.validators.find? "ab" = none ∧ pattern.compile = .ok compiled ∧
      (pattern.addValidator "ab" "x+").compile = .ok checked ∧
      (pattern.extract "w-").outcome = .ok (.matched (.ofList [("ab", "w"), ("cd", "z")])) ∧
      compiled.IsRefused "w-" "ab" "x+" ∧
      ((pattern.addValidator "ab" "x+").extract "w-").outcome = .ok .unmatched ∧
      ((pattern.addValidator "ab" "x+").extract "xx-").outcome =
        .ok (.matched (.ofList [("ab", "xx"), ("cd", "z")])) := by
  let pattern := ((ofTemplate "{ab}-{cd}").addValidator "cd" "y+").addDefault "cd" "z"
  have coherent : pattern.IsCoherent := isCoherent_of_compiled_eq_none rfl
  have absent : pattern.validators.find? "ab" = none := by decide
  obtain ⟨compiled, compiles⟩ : ∃ compiled, pattern.compile = .ok compiled :=
    exists_compile_eq_ok (by decide +kernel)
  obtain ⟨checked, compilesChecked⟩ :
      ∃ checked, (pattern.addValidator "ab" "x+").compile = .ok checked :=
    exists_compile_eq_ok (by decide +kernel)
  have captured : ∀ {subject text : String},
      pattern.compile.map (·.captured? subject "ab") = .ok (some text) →
        compiled.captured? subject "ab" = some text := by
    intro subject text evaluated
    rw [compiles] at evaluated
    exact Except.ok.inj evaluated
  have refused : compiled.IsRefused "w-" "ab" "x+" :=
    ⟨"w", captured (by decide +kernel), by decide +kernel⟩
  have accepted : ¬ compiled.IsRefused "xx-" "ab" "x+" := by
    rintro ⟨text, found, rejected⟩
    obtain rfl : "xx" = text :=
      Option.some.inj ((captured (by decide +kernel)).symm.trans found)
    exact absurd rejected (by decide +kernel)
  have without : (pattern.extract "w-").outcome =
      .ok (.matched (.ofList [("ab", "w"), ("cd", "z")])) := by decide +kernel
  have withoutAccepted : (pattern.extract "xx-").outcome =
      .ok (.matched (.ofList [("ab", "xx"), ("cd", "z")])) := by decide +kernel
  obtain ⟨⟨_, _, filtered, _⟩, _⟩ :=
    extract_addValidator coherent absent compiles compilesChecked "w-"
  obtain ⟨⟨result, before, _, kept⟩, _⟩ :=
    extract_addValidator coherent absent compiles compilesChecked "xx-"
  obtain rfl := Except.ok.inj (before.symm.trans withoutAccepted)
  exact ⟨pattern, compiled, checked, rfl, coherent, absent, compiles, compilesChecked, without,
    refused, filtered refused, kept accepted⟩

end Pattern

end TextTemplate
