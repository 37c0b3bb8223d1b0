import TextTemplate.Proofs.Bindings.Lookup
import TextTemplate.Proofs.Pattern.Coherence
import TextTemplate.Proofs.Pattern.Compilation
import TextTemplate.Proofs.Template.Matching

/-!
# What a template extracts

A template without validators and default values matches the texts that its tokens can be told apart
in, and it extracts the parts of its placeholders from the preferred decomposition. -/

namespace TextTemplate

section Values

variable {chars : List Char} {tokens : List Token} {parts : List (List Char)} {place : Nat}
  {name value : String}

private theorem textBetween_prefix {part : List Char} (starts : part <+: chars.drop place) :
    Compiled.textBetween chars.toArray place (place + part.length) = String.ofList part := by
  obtain ⟨rest, split⟩ := starts
  simp [Compiled.textBetween, List.extract_eq_take_drop, ← split]

private theorem mem_names_of_mem_zip {part : List Char}
    (member : (.placeholder name, part) ∈ tokens.zip parts) : name ∈ placeholderNames tokens :=
  List.mem_filterMap.mpr ⟨_, (List.of_mem_zip member).1, rfl⟩

/-- The capture under a name holds the part of the placeholder with that name. -/
theorem find?_captured (distinct : (placeholderNames tokens).Nodup)
    (decomposes : IsDecomposition tokens parts (chars.drop place)) :
    (∃ capture, (captured tokens parts place).find? (fun capture => capture.name = name) =
        some capture ∧
      Compiled.textBetween chars.toArray capture.start capture.stop = value) ↔
      ∃ part, (.placeholder name, part) ∈ tokens.zip parts ∧ String.ofList part = value := by
  induction tokens generalizing parts place with
  | nil => simp [captured]
  | cons token tokens ih =>
    cases parts with
    | nil => nomatch decomposes.fits
    | cons part parts =>
      obtain ⟨rest, fits, split, others⟩ := IsDecomposition.cons_iff.mp decomposes
      have here := textBetween_prefix ⟨rest, split.symm⟩
      have behind : chars.drop (place + part.length) = rest := by
        rw [← List.drop_drop, split, List.drop_left]
      rw [← behind] at others
      cases token with
      | placeholder found =>
        obtain ⟨fresh, distinct⟩ := List.nodup_cons.mp distinct
        by_cases same : found = name
        · subst same
          have first : (captured (.placeholder found :: tokens) (part :: parts) place).find?
              (fun capture => capture.name = found) =
                some ⟨found, place, place + part.length⟩ := by
            simp [captured, Token.captured, Token.name?]
          rw [first]
          constructor
          · rintro ⟨_, ⟨⟩, equal⟩
            exact ⟨part, List.mem_cons_self .., here.symm.trans equal⟩
          · rintro ⟨other, member, equal⟩
            rcases List.mem_cons.mp member with ⟨⟨⟩⟩ | later
            · exact ⟨_, rfl, here.trans equal⟩
            · exact absurd (mem_names_of_mem_zip later) fresh
        · have other : Token.placeholder name ≠ .placeholder found := by simpa using Ne.symm same
          simpa [captured, Token.captured, Token.name?, same, other, Ne.symm same] using
            ih distinct others
      | literal | wildcard | word =>
        simpa [captured, Token.captured, Token.name?] using ih distinct others

/-- The value that a name gets from some captures: the text captured under it, unless that is
empty. -/
def capturedValue? (subject : Array Char) (captures : List Capture) (name : String) :
    Option String :=
  ((captures.find? fun capture => capture.name = name).map fun capture =>
    Compiled.textBetween subject capture.start capture.stop).filter fun value => !value.isEmpty

theorem capturedValue?_eq_some_iff {subject : Array Char} {captures : List Capture} :
    capturedValue? subject captures name = some value ↔
      (∃ capture, captures.find? (fun capture => capture.name = name) = some capture ∧
        Compiled.textBetween subject capture.start capture.stop = value) ∧ value ≠ "" := by
  simp [capturedValue?, Option.filter_eq_some_iff]

theorem capturedValues_eq_filterMap (subject : Array Char) (captures : List Capture)
    (names : List String) :
    Compiled.capturedValues subject captures names =
      names.filterMap fun name =>
        (capturedValue? subject captures name).map fun value => (name, value) := by
  unfold Compiled.capturedValues capturedValue?
  congr 1
  funext name
  cases captures.find? fun capture => capture.name = name with
  | none => rfl
  | some capture =>
    by_cases nothing :
      (Compiled.textBetween subject capture.start capture.stop).isEmpty = true <;>
      simp [nothing, Option.filter]

theorem lookup_capturedValues (subject : Array Char) (captures : List Capture)
    (names : List String) :
    (Compiled.capturedValues subject captures names).lookup name =
      if name ∈ names then capturedValue? subject captures name else none := by
  rw [capturedValues_eq_filterMap]
  induction names with
  | nil => rfl
  | cons other names ih =>
    rw [List.filterMap_cons]
    cases found : capturedValue? subject captures other with
    | none =>
      by_cases same : name = other
      · subst same
        simp only [Option.map_none, ih, found, ite_self]
      · simp [same, ih]
    | some value =>
      by_cases same : name = other
      · simp [same, found]
      · simp [same, ih, List.lookup_cons, beq_eq_false_iff_ne.mpr same]

theorem map_fst_capturedValues_sublist (subject : Array Char) (captures : List Capture)
    (names : List String) :
    ((Compiled.capturedValues subject captures names).map Prod.fst).Sublist names := by
  rw [capturedValues_eq_filterMap]
  induction names with
  | nil => exact .slnil
  | cons name names ih =>
    rw [List.filterMap_cons]
    cases capturedValue? subject captures name with
    | none => exact ih.cons name
    | some value => exact ih.cons_cons name

end Values

namespace Expr

variable {tokens : List Token} {parts : List (List Char)} {chars : List Char}
  {hasDefault : String → Bool}

private theorem templateExprs_eq :
    templateExprs hasDefault tokens =
      [.look .textStart] ++ (tokens.flatMap (Token.exprs hasDefault) ++ [.look .textEnd]) := rfl

/-- The end of the text is the only place where it ends. -/
private theorem startsAll_textEnd :
    startsAll chars.toArray [.look .textEnd] (places chars.toArray) = [chars.length] := by
  change (List.range (chars.length + 1)).filter (fun place => place == chars.length) = _
  have before : (List.range chars.length).filter (fun place => place == chars.length) = [] := by
    rw [List.filter_eq_nil_iff]
    intro place member
    have less := List.mem_range.mp member
    simp [Nat.ne_of_lt less]
  rw [List.range_succ, List.filter_append, before]
  simp

/-- The whole expression of a template starts at the start of a text that has a decomposition, and
nowhere else. -/
private theorem mem_startsBefore_templateExpr {place : Nat} :
    place ∈ startsBefore chars.toArray (templateExpr hasDefault tokens)
        (places chars.toArray) ↔
      place = 0 ∧ ∃ parts, IsDecomposition tokens parts chars := by
  rw [templateExpr, startsBefore_sequence, templateExprs_eq, startsAll_append, startsAll_append,
    startsAll_textEnd]
  change place ∈ List.filter (fun place => place == 0)
    (startsAll chars.toArray (tokens.flatMap (Token.exprs hasDefault)) [chars.length]) ↔ _
  rw [List.mem_filter, beq_iff_eq, and_comm]
  refine and_congr_right fun first => ?_
  rw [first, mem_startsAll_tokens (Nat.zero_le _), List.drop_zero]

/-- The expression of a template captures what the placeholders stand for in the preferred
decomposition. -/
theorem captures?_templateExpr (preferred : IsPreferred tokens parts chars) :
    (templateExpr hasDefault tokens).captures? chars.toArray =
      some (captured tokens parts 0) := by
  have decomposed : ∃ parts, IsDecomposition tokens parts chars := ⟨parts, preferred.decomposes⟩
  have start : (startsBefore chars.toArray (templateExpr hasDefault tokens)
      (places chars.toArray)).min? = some 0 :=
    List.min?_eq_some_iff.mpr ⟨mem_startsBefore_templateExpr.mpr ⟨rfl, decomposed⟩,
      fun place _ => Nat.zero_le place⟩
  have walk : followAll chars.toArray (templateExprs hasDefault tokens) 0
      (places chars.toArray) = ⟨chars.length, captured tokens parts 0⟩ := by
    have tokensWalk := followAll_tokens hasDefault (Nat.zero_le chars.length)
      (by rwa [List.drop_zero])
    rw [templateExprs_eq, followAll_append, followAll_singleton]
    change Trail.append (.stay 0) (followAll chars.toArray
      (tokens.flatMap (Token.exprs hasDefault) ++ [.look .textEnd]) 0 (places chars.toArray)) = _
    rw [Trail.stay_append, followAll_append, startsAll_textEnd, tokensWalk, followAll_singleton,
      follow]
    simp [Trail.append, Trail.stay]
  rw [captures?, start, Option.map_some, templateExpr, follow_sequence, walk]

/-- The expression of a template captures nothing in a text without a decomposition. -/
theorem captures?_templateExpr_eq_none (none : ¬ ∃ parts, IsDecomposition tokens parts chars) :
    (templateExpr hasDefault tokens).captures? chars.toArray = .none := by
  have nowhere : startsBefore chars.toArray (templateExpr hasDefault tokens)
      (places chars.toArray) = [] :=
    List.eq_nil_iff_forall_not_mem.mpr fun place member =>
      none (mem_startsBefore_templateExpr.mp member).2
  rw [captures?, nowhere]
  rfl

end Expr

namespace Pattern

variable {template : String}

/-- A template without validators and default values is used as its expression. -/
private theorem extract_ofTemplate_outcome (subject : String)
    (distinct : (placeholderNames (tokenize template)).Nodup)
    (light : (ofTemplate template).compile ≠ .error (.template .tooHeavy)) :
    ((ofTemplate template).extract subject).outcome =
      .ok (match (templateExpr Bindings.empty.contains (tokenize template)).captures?
          subject.toList.toArray with
        | none => .unmatched
        | some captures => .matched (.ofList
            (Compiled.capturedValues subject.toList.toArray captures
              (placeholderNames (tokenize template))))) := by
  have lightExpr : (templateExpr Bindings.empty.contains (tokenize template)).isTooHeavy = false := by
    by_contra heavy
    exact light (Compiled.ofTemplate_eq_tooHeavy template .empty .empty distinct (by simpa using heavy))
  have compiles := Compiled.ofTemplate_eq template .empty .empty distinct lightExpr
  rw [compileValidators_empty] at compiles
  have coherent : (ofTemplate template).IsCoherent := isCoherent_of_compiled_eq_none rfl
  rw [coherent.extract_outcome, compile, ofTemplate, compiles]
  simp only [Except.map, Compiled.extract, Compiled.names_templateExpr]
  cases (templateExpr Bindings.empty.contains (tokenize template)).captures?
      subject.toList.toArray with
  | none => rfl
  | some captures =>
    dsimp only
    rw [Compiled.firstRejected?_eq_none (by rfl)]
    rfl

/-- The values of the placeholders are the parts that are not empty. -/
private theorem find?_values {tokens : List Token} {parts : List (List Char)} {text : List Char}
    (distinct : (placeholderNames tokens).Nodup) (decomposes : IsDecomposition tokens parts text)
    (name value : String) :
    (Bindings.ofList (Compiled.capturedValues text.toArray (captured tokens parts 0)
        (placeholderNames tokens))).find? name = some value ↔
      ∃ part, (.placeholder name, part) ∈ tokens.zip parts ∧ part ≠ [] ∧
        value = String.ofList part := by
  have once := distinct.sublist
    (map_fst_capturedValues_sublist text.toArray (captured tokens parts 0) _)
  have found : (∃ capture, (captured tokens parts 0).find? (fun capture => capture.name = name) =
        some capture ∧
      Compiled.textBetween text.toArray capture.start capture.stop = value) ↔
      ∃ part, (.placeholder name, part) ∈ tokens.zip parts ∧ String.ofList part = value :=
    find?_captured distinct (by rwa [List.drop_zero])
  rw [Bindings.find?_ofList once, lookup_capturedValues]
  constructor
  · intro given
    split at given
    · obtain ⟨capture, some⟩ := capturedValue?_eq_some_iff.mp given
      obtain ⟨part, member, rfl⟩ := found.mp capture
      exact ⟨part, member, by simpa using some, rfl⟩
    · contradiction
  · rintro ⟨part, member, some, rfl⟩
    rw [if_pos (mem_names_of_mem_zip member), capturedValue?_eq_some_iff]
    exact ⟨found.mpr ⟨part, member, rfl⟩, by simpa using some⟩

/-- A template matches the texts that have a decomposition, and the values of its placeholders are
the parts that are not empty in the preferred decomposition. -/
theorem extract_ofTemplate (template subject : String)
    (distinct : (placeholderNames (tokenize template)).Nodup)
    (light : (ofTemplate template).compile ≠ .error (.template .tooHeavy)) :
    (((ofTemplate template).extract subject).outcome = .ok .unmatched ↔
        ¬ ∃ parts, IsDecomposition (tokenize template) parts subject.toList) ∧
      ((∃ parts, IsDecomposition (tokenize template) parts subject.toList) →
        ∃ parts, IsPreferred (tokenize template) parts subject.toList) ∧
      ∀ parts, IsPreferred (tokenize template) parts subject.toList →
        ∃ values, ((ofTemplate template).extract subject).outcome = .ok (.matched values) ∧
          ∀ name value, values.find? name = some value ↔
            ∃ part, (.placeholder name, part) ∈ (tokenize template).zip parts ∧ part ≠ [] ∧
              value = String.ofList part := by
  have outcome := extract_ofTemplate_outcome subject distinct light
  have matched : ∀ parts, IsPreferred (tokenize template) parts subject.toList →
      ∃ values, ((ofTemplate template).extract subject).outcome = .ok (.matched values) ∧
        ∀ name value, values.find? name = some value ↔
          ∃ part, (.placeholder name, part) ∈ (tokenize template).zip parts ∧ part ≠ [] ∧
            value = String.ofList part := by
    intro parts preferred
    rw [Expr.captures?_templateExpr preferred] at outcome
    exact ⟨_, outcome, find?_values distinct preferred.decomposes⟩
  refine ⟨⟨fun unmatched decomposed => ?_, fun none => ?_⟩, IsDecomposition.exists_preferred, matched⟩
  · obtain ⟨parts, preferred⟩ := IsDecomposition.exists_preferred decomposed
    obtain ⟨values, result, _⟩ := matched parts preferred
    rw [unmatched] at result
    cases result
  · rw [outcome, Expr.captures?_templateExpr_eq_none none]

private theorem tokenize_hyphen :
    tokenize "{ab}-{cd}" = [.placeholder "ab", .literal "-", .placeholder "cd"] := by
  decide +kernel

private theorem isPreferred_hyphen :
    IsPreferred (tokenize "{ab}-{cd}") [['x'], ['-'], ['y', '-', 'z']] "x-y-z".toList := by
  rw [tokenize_hyphen]
  refine ⟨⟨.cons trivial (.cons rfl (.cons trivial .nil)), rfl⟩, ?_⟩
  rintro other ⟨fits, covers⟩ different
  obtain ⟨first, _, _, behind, rfl⟩ := List.forall₂_cons_left_iff.mp fits
  obtain ⟨_, _, rfl, rest, rfl⟩ := List.forall₂_cons_left_iff.mp behind
  obtain ⟨last, _, _, nothing, rfl⟩ := List.forall₂_cons_left_iff.mp rest
  obtain rfl := List.forall₂_nil_left_iff.mp nothing
  rcases first with _ | ⟨char, _ | ⟨next, first⟩⟩
  · simp at covers
  · simp_all
  · exact .rel (by simp)

/-- The hyphen recurs in the subject; the first placeholder takes as little of it as possible. -/
theorem extract_repeated_hyphen :
    (placeholderNames (tokenize "{ab}-{cd}")).Nodup ∧
      (ofTemplate "{ab}-{cd}").compile ≠ .error (.template .tooHeavy) ∧
      ∃ values, ((ofTemplate "{ab}-{cd}").extract "x-y-z").outcome = .ok (.matched values) ∧
        values.find? "ab" = some "x" ∧ values.find? "cd" = some "y-z" := by
  have distinct : (placeholderNames (tokenize "{ab}-{cd}")).Nodup := by
    rw [tokenize_hyphen]
    decide
  have light : (ofTemplate "{ab}-{cd}").compile ≠ .error (.template .tooHeavy) := by
    intro heavy
    have compiles : (ofTemplate "{ab}-{cd}").compile.isOk = true := by decide +kernel
    rw [heavy] at compiles
    exact Bool.false_ne_true compiles
  obtain ⟨_, _, matched⟩ := extract_ofTemplate "{ab}-{cd}" "x-y-z" distinct light
  obtain ⟨values, outcome, found⟩ := matched _ isPreferred_hyphen
  rw [tokenize_hyphen] at found
  refine ⟨distinct, light, values, outcome, ?_, ?_⟩
  · exact (found _ _).mpr ⟨['x'], by simp, by simp, rfl⟩
  · exact (found _ _).mpr ⟨['y', '-', 'z'], by simp, by simp, rfl⟩

end Pattern

end TextTemplate
