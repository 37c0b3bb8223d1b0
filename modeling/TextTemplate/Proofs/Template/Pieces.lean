import Mathlib.Tactic.ByContra
import TextTemplate.Proofs.Template.Names

/-!
# How templates are read

A template is read from left to right as signs, escaped characters and plain characters. A sign is
the spelling of a token that is no literal text; an escaped character is an opening brace, a star or
a plus behind a backslash; every other character is plain. The relation Reads says this without the
order in which the alternatives are tried, and a text is read in exactly one way. -/

namespace TextTemplate.Token

/-- The token is no literal text, and if it is a placeholder, it has a proper name. -/
def IsSign : Token → Prop
  | literal _ => False
  | placeholder name => IsName name.toList
  | wildcard | word => True

/-- The text of a template that spells a token: in literal text a backslash stands before each
character that could start a sign. -/
def spelling : Token → List Char
  | literal text =>
    text.toList.flatMap fun char => if isEscapable char then ['\\', char] else [char]
  | placeholder name => '\x7b' :: (name.toList ++ ['\x7d'])
  | wildcard => ['*']
  | word => ['+']

/-- The text `char :: rest` starts neither with a sign nor with an escaped character. -/
structure IsPlain (char : Char) (rest : List Char) : Prop where
  noSign : ∀ token : Token, token.IsSign → ¬ token.spelling <+: char :: rest
  noEscape : char = '\\' → ∀ next ∈ rest.head?, isEscapable next = false

/-- A text of a template is read as some pieces: a sign as its token, an escaped character without
its backslash, and any other character as itself. -/
inductive Reads : List Char → List Piece → Prop
  | nil : Reads [] []
  | sign {token : Token} {rest : List Char} {pieces : List Piece} (later : Reads rest pieces)
      (sign : token.IsSign) : Reads (token.spelling ++ rest) (.token token :: pieces)
  | escaped {char : Char} {rest : List Char} {pieces : List Piece} (later : Reads rest pieces)
      (escapable : isEscapable char = true) : Reads ('\\' :: char :: rest) (.char char :: pieces)
  | plain {char : Char} {rest : List Char} {pieces : List Piece} (later : Reads rest pieces)
      (plain : IsPlain char rest) : Reads (char :: rest) (.char char :: pieces)

/-! ## Signs -/

section Signs

variable {token other : Token} {char : Char} {text rest : List Char}

/-- A text starts with a placeholder if it starts with a proper name in braces. -/
theorem placeholderName?_eq_some_iff {name : List Char} :
    placeholderName? text = some name ↔
      IsName name ∧ '\x7b' :: (name ++ ['\x7d']) <+: text := by
  constructor
  · intro found
    refine ⟨isName_of_placeholderName? found, ?_⟩
    unfold placeholderName? at found
    split at found
    · next rest =>
      split at found
      · next first second more taken =>
        split at found
        · next holds =>
          cases found
          simp only [Bool.and_eq_true, beq_iff_eq] at holds
          have split := List.takeWhile_append_dropWhile (p := isNameChar) (l := rest)
          rw [taken] at split
          rw [← split] at holds ⊢
          have closed : (rest.dropWhile isNameChar).head? = some '\x7d' := by
            have last : (first :: second :: more ++ rest.dropWhile isNameChar)[
                (first :: second :: more).length]? = some '\x7d' := holds.2
            rw [List.getElem?_append_right (Nat.le_refl _)] at last
            simpa [List.head?_eq_getElem?] using last
          obtain ⟨behind, same⟩ := List.head?_eq_some_iff.mp closed
          exact ⟨behind, by simp [same]⟩
        · contradiction
      · contradiction
    · contradiction
  · rintro ⟨⟨first, second, more, rfl, start, chars⟩, behind, rfl⟩
    have taken : (first :: second :: more ++ '\x7d' :: behind).takeWhile isNameChar =
        first :: second :: more := by
      rw [List.takeWhile_append_of_pos chars, List.takeWhile_cons_of_neg (by decide),
        List.append_nil]
    simp only [List.cons_append, List.append_assoc, List.nil_append] at taken ⊢
    simp [placeholderName?, taken, start]

/-- A sign starts with a character that a backslash could make stand for itself. -/
theorem IsSign.exists_spelling_eq (sign : token.IsSign) :
    ∃ first more, token.spelling = first :: more ∧ isEscapable first = true := by
  cases token with
  | literal => contradiction
  | placeholder | wildcard | word => exact ⟨_, _, rfl, rfl⟩

/-- Behind its first character a sign has no character that could start a sign, and no backslash. -/
theorem IsSign.of_mem_tail (sign : token.IsSign) (member : char ∈ token.spelling.tail) :
    isEscapable char = false ∧ char ≠ '\\' := by
  cases token with
  | literal => contradiction
  | placeholder name =>
    obtain ⟨_, _, _, _, _, chars⟩ := sign
    rcases List.mem_append.mp member with inside | last
    · have proper := chars char inside
      constructor
      · by_contra escapable
        simp only [isEscapable, Bool.not_eq_false, Bool.or_eq_true, decide_eq_true_eq] at escapable
        rcases escapable with (rfl | rfl) | rfl <;> exact absurd proper (by decide)
      · rintro rfl
        exact absurd proper (by decide)
    · obtain rfl := List.mem_singleton.mp last
      decide
  | wildcard | word => simp [spelling] at member

theorem IsSign.ne_backslash_of_mem (sign : token.IsSign) (member : char ∈ token.spelling) :
    char ≠ '\\' := by
  obtain ⟨first, more, whole, escapable⟩ := sign.exists_spelling_eq
  rw [whole] at member
  rcases List.mem_cons.mp member with rfl | later
  · rintro rfl
    contradiction
  · exact (sign.of_mem_tail (by rwa [whole])).2

/-- What is read where a sign is spelled. -/
theorem IsSign.pieceAt_eq (sign : token.IsSign) (spelled : token.spelling <+: char :: rest) :
    pieceAt char rest = (.token token, token.spelling.length - 1) := by
  obtain ⟨behind, whole⟩ := spelled
  cases token with
  | literal => contradiction
  | placeholder name =>
    have found : placeholderName? (char :: rest) = some name.toList :=
      placeholderName?_eq_some_iff.mpr ⟨sign, behind, whole⟩
    simp [pieceAt, found, spelling]
  | wildcard | word =>
    obtain ⟨rfl, rfl⟩ := List.cons.inj whole
    rfl

/-- At most one sign is spelled at the start of a text. -/
theorem IsSign.eq_of_spelling_prefix (sign : token.IsSign) (otherSign : other.IsSign)
    (spelled : token.spelling <+: text) (otherSpelled : other.spelling <+: text) :
    token = other := by
  obtain ⟨first, more, whole, _⟩ := sign.exists_spelling_eq
  cases text with
  | nil => simp [whole] at spelled
  | cons char rest =>
    have same := (sign.pieceAt_eq spelled).symm.trans (otherSign.pieceAt_eq otherSpelled)
    exact Piece.token.inj (congrArg Prod.fst same)

theorem not_isSign_spelling_prefix (fixed : isEscapable char = false) (sign : token.IsSign) :
    ¬ token.spelling <+: char :: rest := by
  obtain ⟨first, more, whole, escapable⟩ := sign.exists_spelling_eq
  rw [whole, List.cons_prefix_cons]
  rintro ⟨rfl, _⟩
  exact Bool.false_ne_true (fixed.symm.trans escapable)

end Signs

/-! ## Pieces -/

section Pieces

variable {char : Char} {text rest : List Char} {pieces : List Piece}

theorem pieceAt_escaped (escapable : isEscapable char = true) :
    pieceAt '\\' (char :: rest) = (.char char, 1) := by
  simp [pieceAt, placeholderName?, escapable]

theorem IsPlain.pieceAt_eq (plain : IsPlain char rest) : pieceAt char rest = (.char char, 0) := by
  obtain ⟨noSign, noEscape⟩ := plain
  have noName : placeholderName? (char :: rest) = none := by
    by_contra found
    obtain ⟨name, found⟩ := Option.ne_none_iff_exists'.mp found
    obtain ⟨proper, spelled⟩ := placeholderName?_eq_some_iff.mp found
    exact noSign (.placeholder (String.ofList name)) (by simpa [IsSign] using proper)
      (by simpa [spelling] using spelled)
  have noStar : char ≠ '*' := by
    rintro rfl
    exact noSign .wildcard trivial ⟨rest, rfl⟩
  have noPlus : char ≠ '+' := by
    rintro rfl
    exact noSign .word trivial ⟨rest, rfl⟩
  simp only [pieceAt, noName, noStar, noPlus, if_false]
  split
  · next backslash =>
    cases rest with
    | nil => rfl
    | cons next rest => simp [noEscape backslash next rfl]
  · rfl

/-- The characters that belong to the piece before are passed over. -/
theorem pieces_eq_pieces_drop (taken : Nat) (text : List Char) :
    Token.pieces taken text = Token.pieces 0 (text.drop taken) := by
  induction text generalizing taken with
  | nil => cases taken <;> rfl
  | cons char rest ih =>
    cases taken with
    | zero => rfl
    | succ taken => exact ih taken

theorem pieces_cons (char : Char) (rest : List Char) :
    Token.pieces 0 (char :: rest) =
      (pieceAt char rest).1 :: Token.pieces 0 (rest.drop (pieceAt char rest).2) := by
  rw [← pieces_eq_pieces_drop]
  rfl

/-- A text is read in one way only. -/
theorem Reads.pieces_eq (reads : Reads text pieces) : Token.pieces 0 text = pieces := by
  induction reads with
  | nil => rfl
  | @sign token rest pieces later sign ih =>
    obtain ⟨first, more, whole, _⟩ := sign.exists_spelling_eq
    have spelled : token.spelling <+: first :: (more ++ rest) := ⟨rest, by rw [whole]; rfl⟩
    rw [whole, List.cons_append, pieces_cons, sign.pieceAt_eq spelled, whole]
    simp [ih]
  | escaped later escapable ih => rw [pieces_cons, pieceAt_escaped escapable, ← ih]; rfl
  | plain later plain ih => rw [pieces_cons, plain.pieceAt_eq, ← ih]; rfl

/-- A text starts with a sign, with an escaped character or with a plain one. -/
theorem sign_or_escaped_or_plain (char : Char) (rest : List Char) :
    (∃ token : Token, token.IsSign ∧ token.spelling <+: char :: rest) ∨
      (∃ next behind, char = '\\' ∧ rest = next :: behind ∧ isEscapable next = true) ∨
      IsPlain char rest := by
  by_cases spelled : ∃ token : Token, token.IsSign ∧ token.spelling <+: char :: rest
  · exact .inl spelled
  by_cases escaped : char = '\\' ∧ ∃ next ∈ rest.head?, isEscapable next = true
  · obtain ⟨backslash, next, found, escapable⟩ := escaped
    obtain ⟨behind, whole⟩ := List.head?_eq_some_iff.mp found
    exact .inr (.inl ⟨next, behind, backslash, whole, escapable⟩)
  · refine .inr (.inr ⟨fun token sign here => spelled ⟨token, sign, here⟩, ?_⟩)
    intro backslash next found
    by_contra escapable
    exact escaped ⟨backslash, next, found, by simpa using escapable⟩

/-- Every text can be read. -/
theorem exists_reads (text : List Char) : ∃ pieces, Reads text pieces := by
  -- The induction is on the length, since a sign may take any number of characters.
  induction length : text.length using Nat.strongRecOn generalizing text with
  | ind length ih =>
  have shorter : ∀ rest : List Char, rest.length < text.length → ∃ pieces, Reads rest pieces :=
    fun rest less => ih _ (length ▸ less) rest rfl
  cases text with
  | nil => exact ⟨[], .nil⟩
  | cons char rest =>
    rcases sign_or_escaped_or_plain char rest with
      ⟨token, sign, behind, whole⟩ | ⟨next, behind, rfl, rfl, escapable⟩ | plain
    · obtain ⟨first, more, spelling, _⟩ := sign.exists_spelling_eq
      have less : behind.length < (token.spelling ++ behind).length := by
        rw [spelling, List.length_append, List.length_cons]
        omega
      obtain ⟨pieces, later⟩ := shorter behind (whole ▸ less)
      exact ⟨_, whole ▸ later.sign sign⟩
    · obtain ⟨pieces, later⟩ := shorter behind (Nat.lt_succ_of_lt (Nat.lt_succ_self _))
      exact ⟨_, later.escaped escapable⟩
    · obtain ⟨pieces, later⟩ := shorter rest (Nat.lt_succ_self _)
      exact ⟨_, later.plain plain⟩

/-- Every text is read as its pieces. -/
theorem reads_pieces (text : List Char) : Reads text (Token.pieces 0 text) := by
  obtain ⟨pieces, reads⟩ := exists_reads text
  rwa [reads.pieces_eq]

end Pieces

end TextTemplate.Token
