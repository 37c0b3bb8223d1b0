import TextTemplate.Proofs.Pattern.Extraction

/-!
# What default values do

A default value for a placeholder makes its group optional. This changes neither which subjects
match nor what is captured, so that the default value only fills a gap: it is the value of its name
where nothing else is. -/

namespace TextTemplate

/-- The result with a value for a name that has none. -/
def MatchResult.filled (name value : String) : MatchResult → MatchResult
  | matched values => matched (if values.contains name then values else values.insert name value)
  | unmatched => unmatched

/-- What the expression of a template captures does not depend on which placeholders have default
values. -/
theorem Expr.captures?_templateExpr_eq (hasDefault other : String → Bool) (tokens : List Token)
    (chars : List Char) :
    (templateExpr hasDefault tokens).captures? chars.toArray =
      (templateExpr other tokens).captures? chars.toArray := by
  by_cases decomposed : ∃ parts, IsDecomposition tokens parts chars
  · obtain ⟨parts, preferred⟩ := IsDecomposition.exists_preferred decomposed
    rw [captures?_templateExpr preferred, captures?_templateExpr preferred]
  · rw [captures?_templateExpr_eq_none decomposed, captures?_templateExpr_eq_none decomposed]

namespace Compiled

variable {compiled other : Compiled} {defaults : Bindings} {name : String}

/-- A default value for a name that has none fills a gap in the result. -/
theorem extract_insert (distinct : compiled.names.Nodup) (absent : defaults.find? name = none)
    (value subject : String) :
    compiled.extract (defaults.insert name value) subject =
      ((compiled.extract defaults subject).1.filled name value,
        (compiled.extract defaults subject).2) := by
  unfold extract
  dsimp only
  split
  · rfl
  · next captures _ =>
    have once := distinct.sublist
      (map_fst_capturedValues_sublist subject.toList.toArray captures compiled.names)
    split
    · rfl
    · exact congrArg (fun values => (MatchResult.matched values, none))
        (Bindings.foldl_insert_insert once absent value)

/-- Compiling a template with another default value changes neither what is captured nor the names
nor the validators. -/
theorem captures?_eq_of_ofTemplate {template : String} {validators otherDefaults : Bindings}
    (compiles : ofTemplate template validators defaults = .ok compiled)
    (compilesOther : ofTemplate template validators otherDefaults = .ok other) :
    (∀ chars : List Char,
        other.expr.captures? chars.toArray = compiled.expr.captures? chars.toArray) ∧
      other.names = compiled.names ∧ other.validators = compiled.validators := by
  have names : other.names = compiled.names :=
    (names_of_ofTemplate compilesOther).trans (names_of_ofTemplate compiles).symm
  obtain ⟨_, _, checks, found, rfl⟩ := ofTemplate_eq_ok_iff.mp compiles
  obtain ⟨_, _, otherChecks, otherFound, rfl⟩ := ofTemplate_eq_ok_iff.mp compilesOther
  obtain rfl : checks = otherChecks := Except.ok.inj (found.symm.trans otherFound)
  exact ⟨Expr.captures?_templateExpr_eq _ _ _, names, rfl⟩

end Compiled

namespace Pattern

variable {pattern : Pattern} {compiled filled : Compiled} {name value : String}

/-- A default value for a name that has none fills a gap in the result: it changes neither whether a
subject matches nor what is captured nor which value a validator rejects. -/
theorem extract_addDefault (coherent : pattern.IsCoherent)
    (absent : pattern.defaults.find? name = none) (compiles : pattern.compile = .ok compiled)
    (compilesFilled : (pattern.addDefault name value).compile = .ok filled) (subject : String) :
    (∃ result, (pattern.extract subject).outcome = .ok result ∧
        ((pattern.addDefault name value).extract subject).outcome =
          .ok (result.filled name value)) ∧
      filled.expr.captures? subject.toList.toArray =
        compiled.expr.captures? subject.toList.toArray ∧
      ∀ rejection, .rejected rejection ∈ ((pattern.addDefault name value).extract subject).events ↔
        .rejected rejection ∈ (pattern.extract subject).events := by
  have filledCoherent : (pattern.addDefault name value).IsCoherent :=
    isCoherent_of_compiled_eq_none rfl
  obtain ⟨captures, names, validators⟩ :=
    Compiled.captures?_eq_of_ofTemplate compiles compilesFilled
  have distinct : compiled.names.Nodup := Compiled.nodup_names compiles
  have extracts : filled.extract (pattern.defaults.insert name value) subject =
      ((compiled.extract pattern.defaults subject).1.filled name value,
        (compiled.extract pattern.defaults subject).2) :=
    (Compiled.extract_eq (captures _) names validators _).trans
      (Compiled.extract_insert distinct absent value subject)
  refine ⟨⟨(compiled.extract pattern.defaults subject).1, ?_, ?_⟩, captures _, fun rejection => ?_⟩
  · rw [coherent.extract_outcome, compiles]
    rfl
  · rw [filledCoherent.extract_outcome, compilesFilled]
    exact congrArg (fun result => Except.ok result.1) extracts
  · rw [filledCoherent.rejected_mem_extract_iff compilesFilled,
      coherent.rejected_mem_extract_iff compiles]
    change (filled.extract (pattern.defaults.insert name value) subject).2 = _ ↔ _
    rw [extracts]

/-- The first placeholder has a value, a validator and a default value of its own; the second one
captures nothing, so that its default value stands for it. -/
theorem extract_addDefault_gap :
    ∃ pattern compiled filled,
      pattern = ((ofTemplate "{ab}-{cd}").addValidator "ab" "x+").addDefault "ab" "z" ∧
      pattern.IsCoherent ∧ pattern.defaults.find? "cd" = none ∧ pattern.compile = .ok compiled ∧
      (pattern.addDefault "cd" "y").compile = .ok filled ∧
      (pattern.extract "xx-").outcome = .ok (.matched (.ofList [("ab", "xx")])) ∧
      ((pattern.addDefault "cd" "y").extract "xx-").outcome =
        .ok (.matched (.ofList [("ab", "xx"), ("cd", "y")])) := by
  let pattern := ((ofTemplate "{ab}-{cd}").addValidator "ab" "x+").addDefault "ab" "z"
  have coherent : pattern.IsCoherent := isCoherent_of_compiled_eq_none rfl
  have absent : pattern.defaults.find? "cd" = none := by decide
  obtain ⟨compiled, compiles⟩ : ∃ compiled, pattern.compile = .ok compiled :=
    exists_compile_eq_ok (by decide +kernel)
  obtain ⟨filled, compilesFilled⟩ : ∃ filled, (pattern.addDefault "cd" "y").compile = .ok filled :=
    exists_compile_eq_ok (by decide +kernel)
  have without : (pattern.extract "xx-").outcome = .ok (.matched (.ofList [("ab", "xx")])) := by
    decide +kernel
  refine ⟨pattern, compiled, filled, rfl, coherent, absent, compiles, compilesFilled, without, ?_⟩
  obtain ⟨⟨result, before, after⟩, _⟩ :=
    extract_addDefault coherent absent compiles compilesFilled "xx-"
  obtain rfl := Except.ok.inj (before.symm.trans without)
  exact after

end Pattern

end TextTemplate
