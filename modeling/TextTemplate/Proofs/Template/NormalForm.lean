import Mathlib.Data.List.Chain
import TextTemplate.Proofs.Template.Pieces

/-!
# Normal lists of tokens

The tokens of a template form a normal list: literal text is gathered in one token that is not
empty, and no backslash stands at its end before a sign. Every normal list of tokens is spelled by
some template. -/

namespace TextTemplate

namespace Token

/-- Literal text is not empty, and a placeholder has a proper name. -/
def IsProper : Token → Prop
  | literal text => text ≠ ""
  | placeholder name => IsName name.toList
  | wildcard | word => True

/-- The second token may stand directly behind the first one: it is no more literal text behind
literal text, and no sign behind a backslash. -/
def MayPrecede : Token → Token → Prop
  | literal _, literal _ => False
  | literal text, _ => text.toList.getLast? ≠ some '\\'
  | _, _ => True

/-- Every token is proper, and neighbours may stand next to each other. -/
structure IsNormal (tokens : List Token) : Prop where
  proper : ∀ token ∈ tokens, token.IsProper
  apart : tokens.IsChain MayPrecede

theorem isNormal_nil : IsNormal [] := ⟨by simp, .nil⟩

theorem isNormal_cons_iff {token : Token} {tokens : List Token} :
    IsNormal (token :: tokens) ↔
      token.IsProper ∧ (∀ next ∈ tokens.head?, token.MayPrecede next) ∧ IsNormal tokens := by
  have chain : (token :: tokens).IsChain MayPrecede ↔
      (∀ next ∈ tokens.head?, token.MayPrecede next) ∧ tokens.IsChain MayPrecede := by
    cases tokens <;> simp
  constructor
  · rintro ⟨proper, apart⟩
    obtain ⟨first, others⟩ := List.forall_mem_cons.mp proper
    exact ⟨first, (chain.mp apart).1, others, (chain.mp apart).2⟩
  · rintro ⟨first, next, others, apart⟩
    exact ⟨List.forall_mem_cons.mpr ⟨first, others⟩, chain.mpr ⟨next, apart⟩⟩

theorem IsSign.isProper {token : Token} (sign : token.IsSign) : token.IsProper := by
  cases token with
  | literal => contradiction
  | placeholder | wildcard | word => exact sign

theorem IsSign.mayPrecede {token : Token} (sign : token.IsSign) (next : Token) :
    token.MayPrecede next := by
  cases token with
  | literal => contradiction
  | placeholder | wildcard | word => cases next <;> trivial

/-! ## Templates have normal lists of tokens -/

/-- Literal text that does not end with a backslash may stand before signs. -/
theorem isNormal_behind {text : List Char} {tokens : List Token} (normal : IsNormal tokens)
    (apart : ∀ token ∈ tokens.head?, token.IsSign ∧ text.getLast? ≠ some '\\') :
    IsNormal (behind text tokens) := by
  cases text with
  | nil => exact normal
  | cons char text =>
    refine isNormal_cons_iff.mpr ⟨by simp [IsProper], fun next found => ?_, normal⟩
    obtain ⟨sign, last⟩ := apart next found
    cases next with
    | literal => contradiction
    | placeholder | wildcard | word => simpa [MayPrecede] using last

/-- Where no literal text comes before the first token, its sign is what comes next. -/
theorem Reads.head?_of_gather {text : List Char} {pieces : List Piece} (reads : Reads text pieces)
    (nothing : (gather pieces).1 = []) {token : Token} (first : token ∈ (gather pieces).2.head?) :
    ∃ char ∈ text.head?, isEscapable char = true := by
  cases reads with
  | nil => simp [gather] at first
  | sign later sign =>
    obtain ⟨char, more, spelling, escapable⟩ := sign.exists_spelling_eq
    exact ⟨char, by simp [spelling], escapable⟩
  | escaped | plain => simp [gather] at nothing

/-- What is read gives a normal list of tokens, which starts with a sign and has no backslash before
it. -/
theorem Reads.isNormal_gather {text : List Char} {pieces : List Piece} (reads : Reads text pieces) :
    IsNormal (gather pieces).2 ∧
      ∀ token ∈ (gather pieces).2.head?,
        token.IsSign ∧ (gather pieces).1.getLast? ≠ some '\\' := by
  induction reads with
  | nil => exact ⟨isNormal_nil, by simp [gather]⟩
  | sign later sign ih =>
    refine ⟨isNormal_cons_iff.mpr ⟨sign.isProper, fun next _ => sign.mayPrecede next, ?_⟩, ?_⟩
    · exact isNormal_behind ih.1 ih.2
    · rintro token ⟨⟩
      exact ⟨sign, by simp [gather]⟩
  | @escaped char rest pieces later escapable ih =>
    refine ⟨ih.1, fun token first => ⟨(ih.2 token first).1, ?_⟩⟩
    have others := (ih.2 token first).2
    have different : char ≠ '\\' := by
      rintro rfl
      contradiction
    cases gathered : (gather pieces).1 with
    | nil => simpa [gather, gathered] using different
    | cons next text => simpa [gather, gathered] using others
  | @plain char rest pieces later plain ih =>
    refine ⟨ih.1, fun token first => ⟨(ih.2 token first).1, ?_⟩⟩
    have others := (ih.2 token first).2
    cases gathered : (gather pieces).1 with
    | nil =>
      obtain ⟨next, found, escapable⟩ := later.head?_of_gather gathered first
      have different : char ≠ '\\' := by
        intro backslash
        exact Bool.false_ne_true ((plain.noEscape backslash next found).symm.trans escapable)
      simpa [gather, gathered] using different
    | cons next text => simpa [gather, gathered] using others

theorem isNormal_ofText (text : List Char) : IsNormal (ofText text) := by
  obtain ⟨normal, apart⟩ := (reads_pieces text).isNormal_gather
  exact isNormal_behind normal apart

/-! ## Normal lists of tokens have templates -/

def toPieces : Token → List Piece
  | literal text => text.toList.map .char
  | token => [.token token]

/-- The spelling of literal text is read as its characters, unless it ends with a backslash before a
character that this would make stand for itself. -/
theorem Reads.text {rest : List Char} {pieces : List Piece} (later : Reads rest pieces)
    {text : List Char}
    (apart : text.getLast? = some '\\' → ∀ next ∈ rest.head?, isEscapable next = false) :
    Reads ((text.flatMap fun char => if isEscapable char then ['\\', char] else [char]) ++ rest)
      (text.map .char ++ pieces) := by
  induction text with
  | nil => exact later
  | cons char text ih =>
    have others := ih fun last => apart (by rw [List.getLast?_cons, last]; rfl)
    rw [List.flatMap_cons, List.append_assoc, List.map_cons, List.cons_append]
    cases escapable : isEscapable char with
    | true => exact others.escaped escapable
    | false =>
      refine others.plain ⟨fun token sign => not_isSign_spelling_prefix escapable sign, ?_⟩
      rintro rfl next found
      cases text with
      | nil => exact apart rfl next found
      | cons second text =>
        cases escapableSecond : isEscapable second with
        | true =>
          obtain rfl : '\\' = next := by simpa [escapableSecond] using found
          rfl
        | false =>
          obtain rfl : second = next := by simpa [escapableSecond] using found
          exact escapableSecond

/-- The spelling of a normal list of tokens is read as the pieces of these tokens. -/
theorem IsNormal.reads {tokens : List Token} (normal : IsNormal tokens) :
    Reads (tokens.flatMap spelling) (tokens.flatMap toPieces) := by
  induction tokens with
  | nil => exact .nil
  | cons token tokens ih =>
    obtain ⟨proper, next, rest⟩ := isNormal_cons_iff.mp normal
    have later := ih rest
    rw [List.flatMap_cons, List.flatMap_cons]
    cases token with
    | literal text =>
      refine later.text fun last char found => ?_
      cases tokens with
      | nil => simp at found
      | cons token tokens =>
        have apart := next token rfl
        cases token with
        | literal => contradiction
        | placeholder | wildcard | word => exact absurd last apart
    | placeholder | wildcard | word => exact later.sign proper

theorem gather_text (text : List Char) (pieces : List Piece) :
    gather (text.map .char ++ pieces) = (text ++ (gather pieces).1, (gather pieces).2) := by
  induction text with
  | nil => rfl
  | cons char text ih => rw [List.map_cons, List.cons_append, gather, ih]; rfl

/-- The pieces of a normal list of tokens are gathered into these tokens. -/
theorem IsNormal.behind_gather {tokens : List Token} (normal : IsNormal tokens) :
    behind (gather (tokens.flatMap toPieces)).1 (gather (tokens.flatMap toPieces)).2 = tokens := by
  induction tokens with
  | nil => rfl
  | cons token tokens ih =>
    obtain ⟨proper, next, rest⟩ := isNormal_cons_iff.mp normal
    have others := ih rest
    rw [List.flatMap_cons]
    cases token with
    | literal text =>
      have nothing : (gather (tokens.flatMap toPieces)).1 = [] := by
        cases tokens with
        | nil => rfl
        | cons token tokens =>
          have apart := next token rfl
          cases token with
          | literal => contradiction
          | placeholder | wildcard | word => rfl
      have filled : text.toList.isEmpty = false := by simpa [IsProper] using proper
      rw [nothing] at others
      rw [toPieces, gather_text, nothing, List.append_nil]
      simp only [behind, filled, String.ofList_toList]
      exact congrArg (literal text :: ·) others
    | placeholder name => exact congrArg (placeholder name :: ·) others
    | wildcard => exact congrArg (wildcard :: ·) others
    | word => exact congrArg (word :: ·) others

end Token

/-- The template that spells some tokens. -/
def spell (tokens : List Token) : String := String.ofList (tokens.flatMap Token.spelling)

/-- The tokens of a template form a normal list, and the template that spells some tokens has these
tokens if and only if they form a normal list. -/
theorem isNormal_tokenize_and_tokenize_spell_iff :
    (∀ template, Token.IsNormal (tokenize template)) ∧
      ∀ tokens, tokenize (spell tokens) = tokens ↔ Token.IsNormal tokens := by
  have normal : ∀ template, Token.IsNormal (tokenize template) := fun template =>
    Token.isNormal_ofText template.toList
  refine ⟨normal, fun tokens => ⟨fun same => same ▸ normal _, fun proper => ?_⟩⟩
  rw [tokenize, spell, String.toList_ofList, Token.ofText, proper.reads.pieces_eq]
  exact proper.behind_gather

/-- Literal text may end like the start of a placeholder; a backslash at its end would change the
sign behind it. -/
example :
    tokenize (spell [.literal "\x7bab", .placeholder "cd", .literal "\\*\\"]) =
        [.literal "\x7bab", .placeholder "cd", .literal "\\*\\"] ∧
      tokenize (spell [.literal "\\", .wildcard]) = [.literal "*"] := by
  decide +kernel

end TextTemplate
