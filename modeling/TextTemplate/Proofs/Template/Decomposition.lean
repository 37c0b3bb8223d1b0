import Mathlib.Data.List.Forall2
import Mathlib.Data.Nat.Find
import TextTemplate.Template.Token

/-!
# Decompositions of a text along a template

The tokens of a template divide a text into parts, one for each token. Where several divisions are
possible, the preferred one keeps the parts short, the earlier parts first. This module knows
nothing about expressions: it is what matching by an expression has to agree with. -/

namespace TextTemplate

/-- The text may stand at the place of the token. -/
def Token.Fits : Token → List Char → Prop
  | literal text, part => part = text.toList
  | placeholder _, _ => True
  | wildcard, part => part ≠ []
  | word, part => part ≠ [] ∧ ∀ char ∈ part, isNameChar char = true

/-- The parts make up the text, and each of them fits its token. -/
structure IsDecomposition (tokens : List Token) (parts : List (List Char)) (text : List Char) :
    Prop where
  fits : List.Forall₂ Token.Fits tokens parts
  covers : parts.flatten = text

/-- The parts are the decomposition whose list of lengths is the least one in lexicographic
order. -/
structure IsPreferred (tokens : List Token) (parts : List (List Char)) (text : List Char) :
    Prop where
  decomposes : IsDecomposition tokens parts text
  least : ∀ other, IsDecomposition tokens other text → other ≠ parts →
    List.Lex (· < ·) (parts.map List.length) (other.map List.length)

namespace IsDecomposition

variable {token : Token} {tokens : List Token} {part text : List Char} {parts : List (List Char)}

theorem nil_iff : IsDecomposition [] parts text ↔ parts = [] ∧ text = [] := by
  constructor
  · rintro ⟨fits, covers⟩
    cases fits
    exact ⟨rfl, covers.symm⟩
  · rintro ⟨rfl, rfl⟩
    exact ⟨.nil, rfl⟩

theorem cons_iff : IsDecomposition (token :: tokens) (part :: parts) text ↔
    ∃ rest, token.Fits part ∧ text = part ++ rest ∧ IsDecomposition tokens parts rest := by
  constructor
  · rintro ⟨fits, covers⟩
    cases fits with
    | cons first others => exact ⟨parts.flatten, first, covers.symm, others, rfl⟩
  · rintro ⟨rest, first, rfl, others, covers⟩
    exact ⟨.cons first others, by rw [List.flatten_cons, covers]⟩

/-- The first part is a prefix of the text, and the other parts decompose what is behind it. -/
theorem exists_cons_iff : (∃ parts, IsDecomposition (token :: tokens) parts text) ↔
    ∃ part, token.Fits part ∧ part <+: text ∧
      ∃ parts, IsDecomposition tokens parts (text.drop part.length) := by
  constructor
  · rintro ⟨parts, ⟨fits, covers⟩⟩
    cases fits with
    | cons first others =>
      rw [List.flatten_cons] at covers
      exact ⟨_, first, ⟨_, covers⟩, _, others, by rw [← covers, List.drop_left]⟩
  · rintro ⟨part, first, ⟨rest, rfl⟩, parts, others⟩
    rw [List.drop_left] at others
    exact ⟨part :: parts, cons_iff.mpr ⟨rest, first, rfl, others⟩⟩

end IsDecomposition

namespace IsPreferred

variable {token : Token} {tokens : List Token} {part text : List Char} {parts : List (List Char)}

/-- The parts behind the first one are preferred for what is behind it. -/
theorem tail (preferred : IsPreferred (token :: tokens) (part :: parts) text) :
    IsPreferred tokens parts (text.drop part.length) := by
  obtain ⟨decomposes, least⟩ := preferred
  obtain ⟨rest, fits, rfl, others⟩ := IsDecomposition.cons_iff.mp decomposes
  rw [List.drop_left]
  refine ⟨others, fun other decomposed different => ?_⟩
  have smaller := least (part :: other) (IsDecomposition.cons_iff.mpr ⟨rest, fits, rfl, decomposed⟩)
    (by simpa using different)
  cases smaller with
  | cons later => exact later
  | rel less => exact absurd less (Nat.lt_irrefl _)

/-- The first part is as short as the other tokens allow. -/
theorem length_head_le (preferred : IsPreferred (token :: tokens) (part :: parts) text)
    {other : List Char} (fits : token.Fits other) (starts : other <+: text)
    (decomposed : ∃ others, IsDecomposition tokens others (text.drop other.length)) :
    part.length ≤ other.length := by
  obtain ⟨rest, rfl⟩ := starts
  obtain ⟨others, decomposed⟩ := decomposed
  rw [List.drop_left] at decomposed
  by_cases same : other :: others = part :: parts
  · exact Nat.le_of_eq (congrArg List.length (List.cons.inj same).1.symm)
  · have smaller := preferred.least (other :: others)
      (IsDecomposition.cons_iff.mpr ⟨rest, fits, rfl, decomposed⟩) same
    rw [List.map_cons, List.map_cons, List.cons_lex_cons_iff] at smaller
    rcases smaller with less | ⟨same, _⟩
    · exact Nat.le_of_lt less
    · exact Nat.le_of_eq same

/-- A first part that is as short as possible and preferred parts behind it are preferred. -/
theorem cons (fits : token.Fits part) (starts : part <+: text)
    (shortest : ∀ other, token.Fits other → other <+: text →
      (∃ others, IsDecomposition tokens others (text.drop other.length)) →
      part.length ≤ other.length)
    (others : IsPreferred tokens parts (text.drop part.length)) :
    IsPreferred (token :: tokens) (part :: parts) text := by
  have whole : part ++ text.drop part.length = text := by
    obtain ⟨rest, rfl⟩ := starts
    rw [List.drop_left]
  refine ⟨IsDecomposition.cons_iff.mpr ⟨_, fits, whole.symm, others.decomposes⟩, ?_⟩
  rintro parts' ⟨fits', covers⟩ different
  cases fits' with
  | cons first later =>
    next part' parts' =>
    rw [List.flatten_cons] at covers
    have starts' : part' <+: text := ⟨_, covers⟩
    have behind : IsDecomposition tokens parts' (text.drop part'.length) :=
      ⟨later, by rw [← covers, List.drop_left]⟩
    rw [List.map_cons, List.map_cons, List.cons_lex_cons_iff]
    rcases Nat.lt_or_eq_of_le (shortest part' first starts' ⟨parts', behind⟩) with less | same
    · exact .inl less
    · have equal : part' = part := by
        rw [List.prefix_iff_eq_take.mp starts', List.prefix_iff_eq_take.mp starts, same]
      subst equal
      exact .inr ⟨rfl, others.least parts' behind (by simpa using different)⟩

end IsPreferred

/-- A text that has a decomposition has a preferred one. -/
theorem IsDecomposition.exists_preferred {tokens : List Token} {text : List Char}
    (decomposed : ∃ parts, IsDecomposition tokens parts text) :
    ∃ parts, IsPreferred tokens parts text := by
  classical
  induction tokens generalizing text with
  | nil =>
    obtain ⟨parts, decomposes⟩ := decomposed
    refine ⟨parts, decomposes, fun other decomposed different => ?_⟩
    rw [(nil_iff.mp decomposes).1, (nil_iff.mp decomposed).1] at different
    contradiction
  | cons token tokens ih =>
    have lengths : ∃ length, ∃ part, part.length = length ∧ token.Fits part ∧ part <+: text ∧
        ∃ parts, IsDecomposition tokens parts (text.drop part.length) := by
      obtain ⟨part, found⟩ := exists_cons_iff.mp decomposed
      exact ⟨part.length, part, rfl, found⟩
    obtain ⟨part, length, fits, starts, others⟩ := Nat.find_spec lengths
    obtain ⟨parts, preferred⟩ := ih others
    refine ⟨part :: parts, .cons fits starts (fun other fits' starts' others' => ?_) preferred⟩
    rw [length]
    exact Nat.find_min' lengths ⟨other, rfl, fits', starts', others'⟩

end TextTemplate
