import TextTemplate.Proofs.Pattern.Errors
import TextTemplate.Proofs.Pattern.Filling
import TextTemplate.Proofs.Pattern.Rejections
import TextTemplate.Proofs.Template.Shadowing

/-!
# What shadowed placeholders extract

A shadowed placeholder captures nothing in any subject. Its value in a result is its default value,
and its validator is never asked: the pattern without this validator gives the same results. -/

namespace TextTemplate

namespace Compiled

variable {compiled other : Compiled} {template subject name : String}
  {validators defaults : Bindings}

/-- A shadowed placeholder captures nothing. -/
theorem captured?_eq_none_of_isShadowed
    (compiles : ofTemplate template validators defaults = .ok compiled)
    (shadowed : IsShadowed (tokenize template) name) (subject : String) :
    compiled.captured? subject name = none := by
  obtain ⟨distinct, _, _, _, rfl⟩ := ofTemplate_eq_ok_iff.mp compiles
  rw [Option.eq_none_iff_forall_ne_some]
  intro value captured
  obtain ⟨captures, found, member⟩ := captured?_eq_some_iff.mp captured
  by_cases decomposed : ∃ parts, IsDecomposition (tokenize template) parts subject.toList
  · obtain ⟨parts, preferred⟩ := IsDecomposition.exists_preferred decomposed
    rw [Expr.captures?_templateExpr preferred] at found
    cases found
    obtain ⟨capture, some⟩ := capturedValue?_eq_some_iff.mp (mem_capturedValues_iff.mp member).2
    have decomposes := preferred.decomposes
    rw [← List.drop_zero (l := subject.toList)] at decomposes
    obtain ⟨part, placed, rfl⟩ := (find?_captured distinct decomposes).mp capture
    have nothing := preferred.eq_nil_of_isShadowed distinct shadowed placed
    rw [nothing] at some
    exact some rfl
  · rw [Expr.captures?_templateExpr_eq_none decomposed] at found
    cases found

/-- The values of a result are the captured texts, and the default values of the other names. -/
theorem find?_of_extract_eq_matched (distinct : compiled.names.Nodup) {values : Bindings}
    (result : (compiled.extract defaults subject).1 = .matched values) (name : String) :
    values.find? name = (compiled.captured? subject name).or (defaults.find? name) := by
  have covers : (compiled.expr.captures? subject.toList.toArray).isSome = true := by
    cases found : compiled.expr.captures? subject.toList.toArray with
    | some captures => rfl
    | none =>
      simp only [extract, found] at result
      cases result
  have accepted : ∀ name value, compiled.captured? subject name = some value →
      compiled.accepts name value = true := by
    intro name value captured
    by_contra rejected
    rw [extract_of_rejected defaults captured ((Bool.not_eq_true _).mp rejected)] at result
    cases result
  obtain ⟨found, same, given⟩ := exists_extract_eq_matched distinct covers accepted defaults
  obtain rfl := MatchResult.matched.inj (result.symm.trans same)
  exact given name

/-- Only the validators of the captured texts matter. -/
theorem extract_eq_of_accepts (expr : other.expr = compiled.expr)
    (names : other.names = compiled.names)
    (agree : ∀ name value, compiled.captured? subject name = some value →
      other.accepts name value = compiled.accepts name value) (defaults : Bindings) :
    other.extract defaults subject = compiled.extract defaults subject := by
  cases found : compiled.expr.captures? subject.toList.toArray with
  | none => simp only [extract, expr, found]
  | some captures =>
    have rejected : other.firstRejected?
        (capturedValues subject.toList.toArray captures compiled.names) =
          compiled.firstRejected?
            (capturedValues subject.toList.toArray captures compiled.names) := by
      rw [firstRejected?, firstRejected?, ← List.head?_filter, ← List.head?_filter]
      refine congrArg (fun values => (List.head? values).map _) (List.filter_congr ?_)
      intro entry member
      exact congrArg not (agree entry.1 entry.2 (captured?_eq_some_iff.mpr ⟨captures, found, member⟩))
    simp only [extract, expr, names, found, rejected]

/-- A template that is compiled with some validators is compiled with fewer of them. -/
theorem exists_ofTemplate_of_fewer {fewer : Bindings}
    (compiles : ofTemplate template validators defaults = .ok compiled)
    (kept : ∀ name fragment, fewer.find? name = some fragment →
      validators.find? name = some fragment) :
    ∃ other, ofTemplate template fewer defaults = .ok other := by
  obtain ⟨distinct, light, _, _, _⟩ := ofTemplate_eq_ok_iff.mp compiles
  cases made : ofTemplate template fewer defaults with
  | ok other => exact ⟨other, rfl⟩
  | error error =>
    have due := (ofTemplate_eq_error_iff fun _ => light).mp made
    rcases PatternError.exists_isDue_iff.mp ⟨error, due⟩ with repeated | fails
    · exact absurd distinct repeated
    · obtain ⟨name, listed, cause, fragment, given, broken⟩ := fails
      have before : ∃ name ∈ placeholderNames (tokenize template), ∃ cause,
          FailsToCompile validators.find? name cause :=
        ⟨name, listed, cause, fragment, kept name fragment given, broken⟩
      obtain ⟨otherError, dueBefore⟩ := PatternError.exists_isDue_iff.mpr (.inr before)
      have refused := (ofTemplate_eq_error_iff fun _ => light).mpr dueBefore
      exact nomatch compiles.symm.trans refused

/-- Without the validator of a name, the values of the other names are judged as before. -/
theorem accepts_eq_of_erase (compiles : ofTemplate template validators defaults = .ok compiled)
    (compilesOther : ofTemplate template (validators.erase name) defaults = .ok other)
    {key : String} (listed : key ∈ compiled.names) (different : key ≠ name) (value : String) :
    other.accepts key value = compiled.accepts key value := by
  have listedOther : key ∈ other.names := by
    rwa [names_of_ofTemplate compilesOther, ← names_of_ofTemplate compiles]
  have rejects : other.accepts key value = false ↔ compiled.accepts key value = false := by
    rw [accepts_eq_false_iff_exists compilesOther listedOther,
      accepts_eq_false_iff_exists compiles listed, Bindings.find?_erase, if_neg different]
  exact Bool.eq_iff_iff.mpr (by simpa using not_congr rejects)

end Compiled

namespace Pattern

variable {pattern : Pattern} {compiled : Compiled} {name : String}

def removeValidator (name : String) (pattern : Pattern) : Pattern :=
  { pattern with validators := pattern.validators.erase name, compiled := none }

/-- The validator that is taken away is the one that was added last. -/
theorem removeValidator_addValidator (absent : pattern.validators.find? name = none)
    (fragment : String) :
    (pattern.addValidator name fragment).removeValidator name = pattern.uncompiled := by
  have validators : (pattern.validators.insert name fragment).erase name = pattern.validators := by
    apply Bindings.ext_find?
    intro key
    rw [Bindings.find?_erase, Bindings.find?_insert]
    by_cases same : key = name
    · rw [if_pos same, same, absent]
    · rw [if_neg same, if_neg same]
  simp only [removeValidator, addValidator, uncompiled, validators]

/-- A pattern can still be compiled when the validator of a shadowed placeholder is taken away, and it
matches and reports rejections as before. -/
theorem exists_compile_removeValidator (compiles : pattern.compile = .ok compiled)
    (shadowed : IsShadowed (tokenize pattern.template) name) :
    ∃ unchecked, (pattern.removeValidator name).compile = .ok unchecked ∧
      unchecked.source = compiled.source ∧
      ∀ subject, unchecked.extract pattern.defaults subject =
        compiled.extract pattern.defaults subject := by
  have kept : ∀ key fragment, (pattern.validators.erase name).find? key = some fragment →
      pattern.validators.find? key = some fragment := by
    intro key fragment given
    rw [Bindings.find?_erase] at given
    exact (Option.ite_none_left_eq_some.mp given).2
  obtain ⟨unchecked, made⟩ := Compiled.exists_ofTemplate_of_fewer compiles kept
  obtain ⟨expr, names⟩ := Compiled.expr_eq_of_ofTemplate compiles made
  refine ⟨unchecked, made, ?_, ?_⟩
  · rw [Compiled.source_of_ofTemplate compiles, Compiled.source_of_ofTemplate made]
  · intro subject
    apply Compiled.extract_eq_of_accepts expr names
    intro key value captured
    have different : key ≠ name := by
      intro same
      rw [same, Compiled.captured?_eq_none_of_isShadowed compiles shadowed] at captured
      contradiction
    exact Compiled.accepts_eq_of_erase compiles made (Compiled.mem_names_of_captured? captured)
      different value

/-- A placeholder directly before another placeholder or a star captures nothing. A result has its
default value under its name and nothing else, its validator rejects nothing, and without this validator
all results and rejections are the same. -/
theorem extract_shadowed (coherent : pattern.IsCoherent) (compiles : pattern.compile = .ok compiled)
    (shadowed : IsShadowed (tokenize pattern.template) name) (subject : String) :
    compiled.captured? subject name = none ∧
      (∃ result, (pattern.extract subject).outcome = .ok result ∧
        ((pattern.removeValidator name).extract subject).outcome = .ok result ∧
        ∀ values, result = .matched values → values.find? name = pattern.defaults.find? name) ∧
      (∀ value, .rejected ⟨name, value⟩ ∉ (pattern.extract subject).events) ∧
      (∀ rejection, .rejected rejection ∈ ((pattern.removeValidator name).extract subject).events ↔
        .rejected rejection ∈ (pattern.extract subject).events) ∧
      ((pattern.removeValidator name).isMatch subject).outcome = (pattern.isMatch subject).outcome ∧
      (pattern.removeValidator name).source.outcome = pattern.source.outcome := by
  have nothing := Compiled.captured?_eq_none_of_isShadowed compiles shadowed subject
  have coherentUnchecked : (pattern.removeValidator name).IsCoherent :=
    isCoherent_of_compiled_eq_none rfl
  obtain ⟨unchecked, made, source, extracts⟩ := exists_compile_removeValidator compiles shadowed
  have outcome : (pattern.extract subject).outcome =
      .ok (compiled.extract pattern.defaults subject).1 := by
    rw [coherent.extract_outcome, compiles]
    rfl
  have outcomeUnchecked : ((pattern.removeValidator name).extract subject).outcome =
      .ok (compiled.extract pattern.defaults subject).1 := by
    rw [coherentUnchecked.extract_outcome, made]
    exact congrArg (fun result => Except.ok result.1) (extracts subject)
  refine ⟨nothing, ⟨_, outcome, outcomeUnchecked, ?_⟩, ?_, ?_, ?_, ?_⟩
  · intro values matched
    rw [Compiled.find?_of_extract_eq_matched (Compiled.nodup_names compiles) matched, nothing,
      Option.none_or]
  · intro value rejected
    rw [coherent.rejected_mem_extract_iff compiles, Compiled.extract_rejection_iff compiles]
      at rejected
    obtain ⟨_, _, _, ⟨captured, _⟩, _⟩ := rejected
    exact nomatch nothing.symm.trans captured
  · intro rejection
    rw [coherentUnchecked.rejected_mem_extract_iff made, coherent.rejected_mem_extract_iff compiles]
    exact iff_of_eq (congrArg (fun result => result.2 = some rejection) (extracts subject))
  · rw [isMatch, isMatch, outcome, outcomeUnchecked]
  · rw [coherentUnchecked.source_outcome, coherent.source_outcome, made, compiles]
    exact congrArg Except.ok source

/-- The first placeholder stands before another one and the second one before a star; their validators
accept nothing, but they are not asked, and only the first one has a default value. -/
theorem extract_shadowed_unasked :
    ∃ pattern compiled,
      pattern = (((ofTemplate "{ab}{cd}*").addDefault "ab" "y").addValidator "cd" "z").addValidator
        "ab" "z" ∧
      pattern.IsCoherent ∧ pattern.compile = .ok compiled ∧
      IsShadowed (tokenize pattern.template) "ab" ∧ IsShadowed (tokenize pattern.template) "cd" ∧
      compiled.captured? "xx" "ab" = none ∧ compiled.captured? "xx" "cd" = none ∧
      (pattern.extract "xx").outcome = .ok (.matched (.ofList [("ab", "y")])) ∧
      ((((ofTemplate "{ab}{cd}*").addDefault "ab" "y").addValidator "cd" "z").extract "xx").outcome =
        .ok (.matched (.ofList [("ab", "y")])) := by
  let unchecked := ((ofTemplate "{ab}{cd}*").addDefault "ab" "y").addValidator "cd" "z"
  let pattern := unchecked.addValidator "ab" "z"
  have coherent : pattern.IsCoherent := isCoherent_of_compiled_eq_none rfl
  obtain ⟨compiled, compiles⟩ : ∃ compiled, pattern.compile = .ok compiled :=
    exists_compile_eq_ok (by decide +kernel)
  have tokens : tokenize pattern.template = [.placeholder "ab", .placeholder "cd", .wildcard] := by
    decide +kernel
  have shadowed : IsShadowed (tokenize pattern.template) "ab" :=
    ⟨[], .placeholder "cd", [.wildcard], tokens, rfl⟩
  have shadowedNext : IsShadowed (tokenize pattern.template) "cd" :=
    ⟨[.placeholder "ab"], .wildcard, [], tokens, rfl⟩
  have removed : pattern.removeValidator "ab" = unchecked :=
    removeValidator_addValidator (by decide) "z"
  have evaluated : (pattern.extract "xx").outcome = .ok (.matched (.ofList [("ab", "y")])) := by
    decide +kernel
  obtain ⟨nothing, ⟨result, outcome, outcomeUnchecked, _⟩, _⟩ :=
    extract_shadowed coherent compiles shadowed "xx"
  obtain ⟨nothingNext, _⟩ := extract_shadowed coherent compiles shadowedNext "xx"
  obtain rfl := Except.ok.inj (outcome.symm.trans evaluated)
  rw [removed] at outcomeUnchecked
  exact ⟨pattern, compiled, rfl, coherent, compiles, shadowed, shadowedNext, nothing, nothingNext,
    evaluated, outcomeUnchecked⟩

end Pattern

end TextTemplate
