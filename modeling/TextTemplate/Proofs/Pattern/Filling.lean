import TextTemplate.Proofs.Pattern.Validators
import TextTemplate.Proofs.Template.Filling
import TextTemplate.Proofs.Template.NormalForm

/-!
# Extracting what a template was filled with

Matching a template with a text that it was filled to gives the values back, together with the
default values of all other names. This holds for all default values and for all validators that
accept the values. -/

namespace TextTemplate

/-- Each placeholder of a filled text captures its value. -/
theorem IsFilling.capturedValue?_eq {values : String → String} {tokens : List Token} {name : String}
    (filling : IsFilling values tokens) (proper : ∀ text, .literal text ∈ tokens → text ≠ "")
    (distinct : (placeholderNames tokens).Nodup) (listed : name ∈ placeholderNames tokens) :
    capturedValue? (tokens.flatMap (Token.filled values)).toArray
        (captured tokens (tokens.map (Token.filled values)) 0) name = some (values name) := by
  have decomposes := (filling.isPreferred proper).decomposes
  rw [← List.drop_zero (l := tokens.flatMap (Token.filled values))] at decomposes
  refine capturedValue?_eq_some_iff.mpr ⟨?_, filling.filled name listed⟩
  rw [find?_captured distinct decomposes]
  obtain ⟨token, member, named⟩ := List.mem_filterMap.mp listed
  refine ⟨(values name).toList, ?_, String.ofList_toList⟩
  rw [← List.map_prod_left_eq_zip]
  cases token with
  | placeholder =>
    cases named
    exact List.mem_map.mpr ⟨_, member, rfl⟩
  | literal | wildcard | word => cases named

namespace Compiled

variable {compiled : Compiled} {template subject : String} {validators defaults : Bindings}
  {values : String → String}

/-- If the expression covers the subject and every captured text is accepted, the result holds the
captured texts, and the default values of the other names. -/
theorem exists_extract_eq_matched (distinct : compiled.names.Nodup)
    (covers : (compiled.expr.captures? subject.toList.toArray).isSome = true)
    (accepted : ∀ name value, compiled.captured? subject name = some value →
      compiled.accepts name value = true) (defaults : Bindings) :
    ∃ found, (compiled.extract defaults subject).1 = .matched found ∧
      ∀ name, found.find? name = (compiled.captured? subject name).or (defaults.find? name) := by
  obtain ⟨captures, same⟩ := Option.isSome_iff_exists.mp covers
  have nothing := firstRejected?_eq_none_iff.mpr fun name value member =>
    accepted name value (captured?_eq_some_iff.mpr ⟨captures, same, member⟩)
  have once := distinct.sublist
    (map_fst_capturedValues_sublist subject.toList.toArray captures compiled.names)
  simp only [extract, same, nothing]
  refine ⟨_, rfl, fun name => ?_⟩
  rw [captured?, same, Option.bind_some, ← lookup_capturedValues]
  exact Bindings.find?_foldl_insert once defaults name

/-- What a template captures in a text that it was filled to. -/
theorem captured?_filledText (compiles : ofTemplate template validators defaults = .ok compiled)
    (filling : IsFilling values (tokenize template)) :
    (compiled.expr.captures? (filledText values (tokenize template)).toList.toArray).isSome = true ∧
      ∀ name, compiled.captured? (filledText values (tokenize template)) name =
        if name ∈ compiled.names then some (values name) else none := by
  have proper : ∀ text, .literal text ∈ tokenize template → text ≠ "" := fun text member =>
    (Token.isNormal_ofText template.toList).proper _ member
  obtain ⟨distinct, _, checks, _, form⟩ := ofTemplate_eq_ok_iff.mp compiles
  have captures : compiled.expr.captures?
      (filledText values (tokenize template)).toList.toArray =
        some (captured (tokenize template) ((tokenize template).map (Token.filled values)) 0) := by
    rw [filledText, String.toList_ofList, form]
    exact Expr.captures?_templateExpr (filling.isPreferred proper)
  have names : compiled.names = placeholderNames (tokenize template) :=
    names_of_ofTemplate compiles
  refine ⟨by rw [captures]; rfl, fun name => ?_⟩
  rw [captured?, captures, names]
  refine if_ctx_congr Iff.rfl (fun listed => ?_) fun _ => rfl
  rw [Option.bind_some, filledText, String.toList_ofList]
  exact filling.capturedValue?_eq proper distinct listed

end Compiled

namespace Pattern

variable {pattern : Pattern} {compiled : Compiled} {values : String → String}

/-- Matching a template with a text that it was filled to gives exactly the values back that it was
filled with, in place of the default values of their names, and the other default values. -/
theorem extract_filledText (coherent : pattern.IsCoherent)
    (compiles : pattern.compile = .ok compiled)
    (filling : IsFilling values (tokenize pattern.template))
    (accepted : ∀ name ∈ pattern.placeholders, ∀ fragment,
      pattern.validators.find? name = some fragment → ¬ IsRejectedBy fragment (values name)) :
    ∃ found,
      (pattern.extract (filledText values (tokenize pattern.template))).outcome =
          .ok (.matched found) ∧
        ∀ name, found.find? name =
          if name ∈ pattern.placeholders then some (values name)
          else pattern.defaults.find? name := by
  obtain ⟨covers, captured⟩ := Compiled.captured?_filledText compiles filling
  have distinct := Compiled.nodup_names compiles
  have names : compiled.names = pattern.placeholders := Compiled.names_of_ofTemplate compiles
  have sound : ∀ name value,
      compiled.captured? (filledText values (tokenize pattern.template)) name = some value →
        compiled.accepts name value = true := by
    intro name value found
    have listed := Compiled.mem_names_of_captured? found
    rw [captured, if_pos listed] at found
    cases found
    by_contra rejected
    obtain ⟨fragment, given, rejects⟩ := (Compiled.accepts_eq_false_iff_exists compiles listed
      (values name)).mp ((Bool.not_eq_true _).mp rejected)
    exact accepted name (names ▸ listed) fragment given rejects
  obtain ⟨found, result, values⟩ := Compiled.exists_extract_eq_matched distinct covers
    sound pattern.defaults
  refine ⟨found, ?_, fun name => ?_⟩
  · rw [coherent.extract_outcome, compiles]
    exact congrArg Except.ok result
  · rw [values, captured, names]
    split <;> rfl

/-- Each value holds the separator of the other one, so that the text can be divided in several
ways; the second value replaces a default value. -/
theorem extract_filledText_recurring :
    ∃ pattern compiled values found,
      pattern = ((ofTemplate "{ab}-{cd}.-").addValidator "ab" "x.*" |>.addDefault "cd" "z"
        |>.addDefault "ef" "w") ∧
      pattern.IsCoherent ∧ pattern.compile = .ok compiled ∧
      IsFilling values (tokenize pattern.template) ∧
      filledText values (tokenize pattern.template) = "x.y-x-.-" ∧
      (∀ name ∈ pattern.placeholders, ∀ fragment,
        pattern.validators.find? name = some fragment → ¬ IsRejectedBy fragment (values name)) ∧
      (pattern.extract "x.y-x-.-").outcome = .ok (.matched found) ∧
      found.find? "ab" = some "x.y" ∧ found.find? "cd" = some "x-" ∧
        found.find? "ef" = some "w" := by
  let pattern := (ofTemplate "{ab}-{cd}.-").addValidator "ab" "x.*" |>.addDefault "cd" "z"
    |>.addDefault "ef" "w"
  let values := fun name => if name = "ab" then "x.y" else "x-"
  have coherent : pattern.IsCoherent := isCoherent_of_compiled_eq_none rfl
  obtain ⟨compiled, compiles⟩ : ∃ compiled, pattern.compile = .ok compiled :=
    exists_compile_eq_ok (by decide +kernel)
  have tokens : tokenize pattern.template =
      [.placeholder "ab", .literal "-", .placeholder "cd", .literal ".-"] := by decide +kernel
  have placeholders : pattern.placeholders = ["ab", "cd"] := by decide +kernel
  have filling : IsFilling values (tokenize pattern.template) := by
    rw [tokens]
    refine ⟨by simp, by simp [placeholderNames, Token.name?, values], ?_⟩
    simp [Token.EndsAt, values]
  have text : filledText values (tokenize pattern.template) = "x.y-x-.-" := by
    rw [tokens]
    decide +kernel
  have accepted : ∀ name ∈ pattern.placeholders, ∀ fragment,
      pattern.validators.find? name = some fragment → ¬ IsRejectedBy fragment (values name) := by
    rw [placeholders]
    decide +kernel
  obtain ⟨found, outcome, same⟩ := extract_filledText coherent compiles filling accepted
  rw [text] at outcome
  rw [placeholders] at same
  exact ⟨pattern, compiled, values, found, rfl, coherent, compiles, filling, text, accepted,
    outcome, same "ab", same "cd", same "ef"⟩

end Pattern

end TextTemplate
