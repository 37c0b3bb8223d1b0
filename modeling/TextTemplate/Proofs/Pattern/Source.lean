import TextTemplate.Proofs.Pattern.Coherence
import TextTemplate.Proofs.Pattern.Errors
import TextTemplate.Proofs.Template.Decoding

/-!
# The text of a pattern's expression

The text that a template is matched by means the tokens of the template: it is read as one piece for
each of them, with the borders between the pieces where they have been put. It can be refused for the
weight of its expression only. It identifies the tokens of the template and the placeholders with
default values, and nothing else of a pattern matters for it. -/

namespace TextTemplate

/-- The template of a pattern is refused if its names are distinct and its expression is too heavy, and
for no other reason. -/
theorem Compiled.ofTemplate_eq_template_iff {template : String} {validators defaults : Bindings}
    {error : CompileError} :
    ofTemplate template validators defaults = .error (.template error) ↔
      (placeholderNames (tokenize template)).Nodup ∧ error = .tooHeavy ∧
        (templateExpr defaults.contains (tokenize template)).isTooHeavy = true := by
  by_cases refused : (placeholderNames (tokenize template)).Nodup ∧
      (templateExpr defaults.contains (tokenize template)).isTooHeavy = true
  · obtain ⟨distinct, heavy⟩ := refused
    rw [ofTemplate_eq_tooHeavy template validators defaults distinct heavy]
    simp [distinct, heavy, eq_comm]
  · constructor
    · intro fails
      have light : (placeholderNames (tokenize template)).Nodup →
          (templateExpr defaults.contains (tokenize template)).isTooHeavy = false :=
        fun distinct => (Bool.not_eq_true _).mp fun heavy => refused ⟨distinct, heavy⟩
      -- No other error is one of the template's expression.
      cases (ofTemplate_eq_error_iff light).mp fails
    · rintro ⟨distinct, _, heavy⟩
      exact absurd ⟨distinct, heavy⟩ refused

/-- The text of a template's expression is read without a fault as the start of the text, the pieces of
the tokens and the end of the text. At the border behind any of the tokens exactly these pieces have
been read, where the dot stands for line ends too, and the rest is read from there on. The groups that
capture are the placeholders in their order, and a pattern with this template is refused because of the
text only if the expression is too heavy. -/
theorem templateSource_means_tokens (template : String) (hasDefault : String → Bool)
    (distinct : (placeholderNames (tokenize template)).Nodup) :
    Expr.read (templateSource hasDefault (tokenize template)) =
        .ok (templateExpr hasDefault (tokenize template)) ∧
      (∀ before later, tokenize template = before ++ later → ∃ middle : Reading,
        Reading.initial.runFrom ⟨0, Reading.textBefore hasDefault before⟩ = .ok middle ∧
        middle.HasRead (.look .textStart :: before.flatMap (Token.exprs hasDefault))
          (placeholderNames before) ∧
        Reading.initial.runFrom ⟨0, templateSource hasDefault (tokenize template)⟩ =
          middle.runFrom ⟨(Reading.textBefore hasDefault before).length,
            Reading.textBehind hasDefault later⟩) ∧
      (templateExpr hasDefault (tokenize template)).captureNames =
        (placeholderNames (tokenize template)).map some ∧
      ∀ pattern : Pattern, pattern.template = template → ∀ error,
        pattern.compile = .error (.template error) ↔ error = .tooHeavy ∧
          (templateExpr pattern.defaults.contains (tokenize template)).isTooHeavy = true := by
  have proper : ∀ token ∈ tokenize template, token.IsNamed := fun _ => Token.isNamed_of_mem_tokenize
  refine ⟨read_templateSource hasDefault proper distinct, ?_,
    captureNames_templateExpr hasDefault _, ?_⟩
  · intro before later split
    have properBefore : ∀ token ∈ before, token.IsNamed := fun token member =>
      proper token (split ▸ List.mem_append_left later member)
    have distinctBefore : (placeholderNames before).Nodup := by
      rw [split, placeholderNames, List.filterMap_append] at distinct
      exact (List.nodup_append.mp distinct).1
    obtain ⟨middle, takes, read⟩ :=
      Reading.exists_takes_textBefore hasDefault properBefore distinctBefore
    refine ⟨middle, takes.runFrom_eq, read, ?_⟩
    rw [split, Reading.templateSource_append, takes _ (Reading.head?_textBehind_ne hasDefault later),
      Nat.zero_add]
  · rintro pattern rfl error
    rw [Pattern.compile, Compiled.ofTemplate_eq_template_iff]
    exact and_iff_right distinct

/-- Literal text that looks like a count and a repetition stands before two placeholders, of which the
second one may be left out, and before a line end, a star, a plus and a number sign. -/
theorem templateSource_means_tokens_signs :
    let template := "x\x7b2\x7d?{ab}{cd}\n*+#"
    (placeholderNames (tokenize template)).Nodup ∧
      Expr.read "(?s)^x\\\x7b2\\\x7d\\?(?P<ab>.*?)(?P<cd>.*?)?\n.+?[0-9A-Za-z_]+?\\#$".toList =
        .ok (.sequence ([.look .textStart, .set (.single 'x'), .set (.single '\x7b'),
          .set (.single '2'), .set (.single '\x7d'), .set (.single '?'),
          .group (.named "ab") (.rep 0 none true (.set .all)),
          .rep 0 (some 1) false (.group (.named "cd") (.rep 0 none true (.set .all))),
          .set (.single '\n'), .rep 1 none true (.set .all), .rep 1 none true (.set .plus),
          .set (.single '#'), .look .textEnd] : List Expr).reverse) := by
  intro template
  have tokens : tokenize template = [.literal "x\x7b2\x7d?", .placeholder "ab", .placeholder "cd",
      .literal "\n", .wildcard, .word, .literal "#"] := by decide +kernel
  have distinct : (placeholderNames (tokenize template)).Nodup := by
    rw [tokens]
    decide
  have source : templateSource (· == "cd") (tokenize template) =
      "(?s)^x\\\x7b2\\\x7d\\?(?P<ab>.*?)(?P<cd>.*?)?\n.+?[0-9A-Za-z_]+?\\#$".toList := by
    rw [tokens]
    decide +kernel
  refine ⟨distinct, ?_⟩
  rw [← source, (templateSource_means_tokens template (· == "cd") distinct).1, tokens]
  rfl

namespace Pattern

variable {pattern other : Pattern} {compiled otherCompiled : Compiled}

/-- Two patterns that can be compiled have the same text of an expression if and only if their
templates have the same tokens and the same placeholders have default values. -/
theorem source_eq_iff (coherent : pattern.IsCoherent) (compiles : pattern.compile = .ok compiled)
    (coherentOther : other.IsCoherent) (compilesOther : other.compile = .ok otherCompiled) :
    ∃ text otherText, pattern.source.outcome = .ok text ∧ other.source.outcome = .ok otherText ∧
      (text = otherText ↔ tokenize pattern.template = tokenize other.template ∧
        ∀ name ∈ pattern.placeholders,
          pattern.defaults.contains name = other.defaults.contains name) := by
  have distinct := (Compiled.ofTemplate_eq_ok_iff.mp compiles).1
  have distinctOther := (Compiled.ofTemplate_eq_ok_iff.mp compilesOther).1
  refine ⟨compiled.source, otherCompiled.source, ?_, ?_, ?_⟩
  · rw [coherent.source_outcome, compiles]
    rfl
  · rw [coherentOther.source_outcome, compilesOther]
    rfl
  · rw [Compiled.source_of_ofTemplate compiles, Compiled.source_of_ofTemplate compilesOther,
      String.ofList_inj]
    exact templateSource_eq_iff (Token.isNormal_ofText _) distinct (Token.isNormal_ofText _)
      distinctOther

/-- Other values, validators and names that are no placeholders make no difference; literal text that
spells the expression of a placeholder does. -/
theorem source_eq_iff_spelled :
    ∃ pattern other literal compiled otherCompiled literalCompiled text otherText literalText,
      pattern = ((ofTemplate "{ab}").addValidator "ab" "x").addDefault "ab" "y" ∧
      other = ((ofTemplate "{ab}").addDefault "cd" "z").addDefault "ab" "" ∧
      literal = ofTemplate "(?P<ab>.\\*?)?" ∧
      pattern.IsCoherent ∧ other.IsCoherent ∧ literal.IsCoherent ∧
      pattern.compile = .ok compiled ∧ other.compile = .ok otherCompiled ∧
      literal.compile = .ok literalCompiled ∧
      pattern.source.outcome = .ok text ∧ other.source.outcome = .ok otherText ∧
      literal.source.outcome = .ok literalText ∧ text = otherText ∧ text ≠ literalText := by
  let pattern := ((ofTemplate "{ab}").addValidator "ab" "x").addDefault "ab" "y"
  let other := ((ofTemplate "{ab}").addDefault "cd" "z").addDefault "ab" ""
  let literal := ofTemplate "(?P<ab>.\\*?)?"
  have coherent : pattern.IsCoherent := isCoherent_of_compiled_eq_none rfl
  have coherentOther : other.IsCoherent := isCoherent_of_compiled_eq_none rfl
  have coherentLiteral : literal.IsCoherent := isCoherent_of_compiled_eq_none rfl
  obtain ⟨compiled, compiles⟩ : ∃ compiled, pattern.compile = .ok compiled :=
    exists_compile_eq_ok (by decide +kernel)
  obtain ⟨otherCompiled, compilesOther⟩ : ∃ compiled, other.compile = .ok compiled :=
    exists_compile_eq_ok (by decide +kernel)
  obtain ⟨literalCompiled, compilesLiteral⟩ : ∃ compiled, literal.compile = .ok compiled :=
    exists_compile_eq_ok (by decide +kernel)
  obtain ⟨text, otherText, outcome, outcomeOther, same⟩ :=
    source_eq_iff coherent compiles coherentOther compilesOther
  obtain ⟨again, literalText, outcomeAgain, outcomeLiteral, differs⟩ :=
    source_eq_iff coherent compiles coherentLiteral compilesLiteral
  obtain rfl : text = again := Except.ok.inj (outcome.symm.trans outcomeAgain)
  refine ⟨pattern, other, literal, compiled, otherCompiled, literalCompiled, text, otherText,
    literalText, rfl, rfl, rfl, coherent, coherentOther, coherentLiteral, compiles, compilesOther,
    compilesLiteral, outcome, outcomeOther, outcomeLiteral, same.mpr ?_, mt differs.mp ?_⟩
  · decide +kernel
  · decide +kernel

end Pattern

end TextTemplate
