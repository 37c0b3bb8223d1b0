import Mathlib.Data.List.Chain
import TextTemplate.Proofs.Template.Decomposition

/-!
# Filled templates

A template of literal text and placeholders is filled by values for its placeholders. If no value
holds the character that the literal text behind it starts with, the values can be found again in
the filled text: they are the parts of the placeholders in its preferred decomposition. A shorter
part for a placeholder would have this character behind it inside the value. -/

namespace TextTemplate

namespace Token

/-- The text at the place of a token when placeholders have values. -/
def filled (values : String → String) : Token → List Char
  | literal text => text.toList
  | placeholder name => (values name).toList
  | wildcard | word => []

/-- The value of the first token, if that is a placeholder, ends where the second one begins: the
second one is literal text, and the value does not hold its first character. -/
def EndsAt (values : String → String) : Token → Token → Prop
  | placeholder name, literal text => ∀ char ∈ text.toList.head?, char ∉ (values name).toList
  | placeholder _, _ => False
  | _, _ => True

end Token

/-- The text of tokens when placeholders have values. -/
def filledText (values : String → String) (tokens : List Token) : String :=
  String.ofList (tokens.flatMap (Token.filled values))

/-- The values can be found again in the text of the tokens that is filled with them: there are
literal texts and placeholders only, and the values are not empty. -/
structure IsFilling (values : String → String) (tokens : List Token) : Prop where
  plain : ∀ token ∈ tokens, token ≠ .wildcard ∧ token ≠ .word
  filled : ∀ name ∈ placeholderNames tokens, values name ≠ ""
  /-- A placeholder is the last token, or its value ends at the literal text behind it. -/
  apart : tokens.IsChain (Token.EndsAt values)

namespace IsFilling

variable {values : String → String} {token : Token} {tokens : List Token}

theorem tail (filling : IsFilling values (token :: tokens)) : IsFilling values tokens where
  plain other member := filling.plain other (List.mem_cons_of_mem _ member)
  filled name member := by
    obtain ⟨other, listed, named⟩ := List.mem_filterMap.mp member
    exact filling.filled name
      (List.mem_filterMap.mpr ⟨other, List.mem_cons_of_mem _ listed, named⟩)
  apart := filling.apart.tail

/-- Before its end, a value goes on with one of its own characters. -/
theorem exists_head?_drop {value : List Char} {length : Nat} (less : length < value.length)
    (rest : List Char) : ∃ char ∈ value, ((value ++ rest).drop length).head? = some char :=
  ⟨value[length], List.getElem_mem less, by simp [List.getElem?_append_left less, less]⟩

/-- The part of a first placeholder is not shorter than its value. -/
theorem length_value_le {name : String} (filling : IsFilling values (.placeholder name :: tokens))
    (proper : ∀ text, .literal text ∈ tokens → text ≠ "") {rest : List Char} {length : Nat}
    (decomposed : ∃ parts,
      IsDecomposition tokens parts (((values name).toList ++ rest).drop length)) :
    (values name).toList.length ≤ length := by
  by_contra less
  obtain ⟨char, member, head⟩ := exists_head?_drop (Nat.lt_of_not_le less) rest
  obtain ⟨parts, decomposes⟩ := decomposed
  cases tokens with
  | nil =>
    rw [(IsDecomposition.nil_iff.mp decomposes).2] at head
    contradiction
  | cons next tokens =>
    have ends := (List.isChain_cons_cons.mp filling.apart).1
    cases next with
    | placeholder | wildcard | word => exact ends
    | literal text =>
      obtain ⟨part, _, fits, _, rfl⟩ := List.forall₂_cons_left_iff.mp decomposes.fits
      obtain ⟨behind, _, split, _⟩ := IsDecomposition.cons_iff.mp decomposes
      obtain rfl : part = text.toList := fits
      have first : text.toList.head? = some char := by
        cases same : text.toList with
        | nil => exact absurd (String.toList_eq_nil_iff.mp same) (proper text (by simp))
        | cons => rw [split, same] at head; exact head
      exact ends char first member

/-- The values are the parts of the placeholders in the preferred decomposition. -/
theorem isPreferred (filling : IsFilling values tokens)
    (proper : ∀ text, .literal text ∈ tokens → text ≠ "") :
    IsPreferred tokens (tokens.map (Token.filled values))
      (tokens.flatMap (Token.filled values)) := by
  induction tokens with
  | nil =>
    refine ⟨IsDecomposition.nil_iff.mpr ⟨rfl, rfl⟩, fun other decomposes different => ?_⟩
    exact absurd (IsDecomposition.nil_iff.mp decomposes).1 different
  | cons token tokens ih =>
    have proper' : ∀ text, .literal text ∈ tokens → text ≠ "" := fun text member =>
      proper text (List.mem_cons_of_mem _ member)
    have others := ih filling.tail proper'
    have plain := filling.plain token (List.mem_cons_self ..)
    rw [List.map_cons, List.flatMap_cons]
    have behind : (token.filled values ++ tokens.flatMap (Token.filled values)).drop
        (token.filled values).length = tokens.flatMap (Token.filled values) := List.drop_left
    rw [← behind] at others
    refine .cons ?_ (List.prefix_append ..) (fun other fits _ decomposed => ?_) others
    · cases token with
      | literal => rfl
      | placeholder => trivial
      | wildcard | word => simp at plain
    · cases token with
      | literal => exact Nat.le_of_eq (congrArg List.length fits.symm)
      | placeholder name => exact filling.length_value_le proper' decomposed
      | wildcard | word => simp at plain

end IsFilling

end TextTemplate
