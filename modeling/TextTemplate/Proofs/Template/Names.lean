import TextTemplate.Template.Token

/-!
# Names of placeholders

What a template's text spells as a placeholder has a name of at least two characters: an ASCII
letter or an underscore, and then letters, digits and underscores. -/

namespace TextTemplate

namespace Token

/-- The characters may be the name of a placeholder. -/
def IsName (name : List Char) : Prop :=
  ∃ first second more, name = first :: second :: more ∧ isNameStart first = true ∧
    ∀ char ∈ name, isNameChar char = true

/-- If the token is a placeholder, it has a proper name. -/
def IsNamed (token : Token) : Prop := ∀ name ∈ token.name?, IsName name.toList

theorem isName_of_placeholderName? {text name : List Char}
    (found : placeholderName? text = some name) : IsName name := by
  unfold placeholderName? at found
  split at found
  · next rest =>
    split at found
    · next first second more taken =>
      split at found
      · next holds =>
        simp only [Bool.and_eq_true] at holds
        cases found
        refine ⟨first, second, more, rfl, holds.1, fun char member => ?_⟩
        rw [← taken] at member
        exact List.all_eq_true.mp (List.all_takeWhile ..) char member
      · contradiction
    · contradiction
  · contradiction

theorem isNamed_of_pieceAt {char : Char} {rest : List Char} {token : Token}
    (piece : (pieceAt char rest).1 = .token token) : token.IsNamed := by
  intro name named
  unfold pieceAt at piece
  split at piece
  · next found =>
    cases piece
    cases named
    simpa using isName_of_placeholderName? found
  · split at piece
    · cases piece; contradiction
    · split at piece
      · cases piece; contradiction
      · split at piece
        · split at piece
          · split at piece <;> contradiction
          · contradiction
        · contradiction

theorem isNamed_of_mem_pieces {text : List Char} {taken : Nat} {token : Token}
    (member : .token token ∈ pieces taken text) : token.IsNamed := by
  induction text generalizing taken with
  | nil => simp [pieces] at member
  | cons char rest ih =>
    cases taken with
    | succ taken => exact ih member
    | zero =>
      simp only [pieces, List.mem_cons] at member
      rcases member with same | later
      · exact isNamed_of_pieceAt same.symm
      · exact ih later

theorem mem_behind {text : List Char} {tokens : List Token} {token : Token} {name : String}
    (named : name ∈ token.name?) (member : token ∈ behind text tokens) : token ∈ tokens := by
  unfold behind at member
  split at member
  · exact member
  · rcases List.mem_cons.mp member with rfl | later
    · contradiction
    · exact later

theorem isNamed_of_mem_gather {pieces : List Piece}
    (named : ∀ token, .token token ∈ pieces → token.IsNamed) :
    ∀ token ∈ (gather pieces).2, token.IsNamed := by
  induction pieces with
  | nil => simp [gather]
  | cons piece pieces ih =>
    have later := ih fun token member => named token (List.mem_cons_of_mem _ member)
    cases piece with
    | char char => exact later
    | token first =>
      intro token member name found
      simp only [gather, List.mem_cons] at member
      rcases member with rfl | member
      · exact named token (List.mem_cons_self ..) name found
      · exact later token (mem_behind found member) name found

/-- The placeholders of a template have proper names. -/
theorem isNamed_of_mem_tokenize {template : String} {token : Token}
    (member : token ∈ tokenize template) : token.IsNamed := by
  intro name found
  have gathered : ∀ token ∈ (gather (pieces 0 template.toList)).2, token.IsNamed :=
    isNamed_of_mem_gather fun token => isNamed_of_mem_pieces
  exact gathered token (mem_behind found member) name found

end Token

end TextTemplate
