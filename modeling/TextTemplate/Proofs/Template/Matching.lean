import TextTemplate.Proofs.Search.LazySet
import TextTemplate.Proofs.Search.Optional
import TextTemplate.Proofs.Template.Decomposition
import TextTemplate.Proofs.Template.Spelling

/-!
# Matching a template

The expressions of a template cover a text exactly where the tokens have a decomposition of it, and
the search for what they prefer takes the preferred decomposition: the part of each token is as short
as the tokens behind it allow. Which placeholders have default values makes no difference. -/

namespace TextTemplate

namespace CharSet

theorem mem_single_iff {char other : Char} : (single other).mem char = true ↔ char = other := by
  simp only [single, mem, Bool.and_eq_true, decide_eq_true_eq]
  exact ⟨fun ⟨above, below⟩ => Char.le_antisymm below above,
    fun same => ⟨same ▸ Char.le_refl _, same ▸ Char.le_refl _⟩⟩

@[simp] theorem mem_all (char : Char) : all.mem char = true := by
  have above : ('\x00' : Char).val ≤ char.val := UInt32.zero_le
  have below : char.val ≤ (Char.ofNat 0x10FFFF).val := by
    have bound := char.valid
    change char.val.toNat ≤ 0x10FFFF
    rcases bound with small | ⟨_, small⟩
    · exact Nat.le_trans (Nat.le_of_lt small) (by decide)
    · exact Nat.le_of_lt_succ small
  simp only [all, mem, Bool.and_eq_true, decide_eq_true_eq]
  exact ⟨above, below⟩

/-- A plus stands for the characters that names may hold. -/
theorem mem_plus_iff {char : Char} : plus.mem char = true ↔ Token.isNameChar char = true := by
  have underscore : char = '_' ↔ '_' ≤ char ∧ char ≤ '_' :=
    ⟨fun same => same ▸ ⟨Char.le_refl _, Char.le_refl _⟩,
      fun ⟨above, below⟩ => Char.le_antisymm below above⟩
  unfold Token.isNameChar
  delta Char.isAlphanum Char.isAlpha Char.isUpper Char.isLower Char.isDigit
  simp only [plus, ofList, single, mem, Bool.or_eq_true, Bool.and_eq_true, decide_eq_true_eq,
    underscore, Char.le_def]
  tauto

end CharSet

/-! ## Single tokens -/

section Token

variable {chars : List Char} {targets : List Nat} {hasDefault : String → Bool}

/-- Characters that stand for themselves start where the text goes on with them. -/
private theorem mem_startsAll_singles {text : List Char} {start : Nat} :
    start ∈ Expr.startsAll chars.toArray (text.map fun char => .set (.single char)) targets ↔
      text <+: chars.drop start ∧ start + text.length ∈ targets := by
  induction text generalizing start with
  | nil => simp
  | cons char text ih =>
    rw [List.map_cons, Expr.startsAll_cons, Expr.mem_startsBefore_iff,
      Expr.cons_prefix_drop_iff]
    simp only [Expr.covers_set_iff, CharSet.mem_single_iff, ih, List.length_cons]
    constructor
    · rintro ⟨_, ⟨starts, member⟩, _, found, rfl, rfl⟩
      exact ⟨⟨found, starts⟩, by rwa [Nat.add_right_comm, Nat.add_assoc] at member⟩
    · rintro ⟨⟨found, starts⟩, member⟩
      refine ⟨start + 1, ⟨starts, ?_⟩, char, found, rfl, rfl⟩
      rwa [Nat.add_right_comm, Nat.add_assoc]

private theorem follow_singles (text : List Char) (place : Nat) :
    Expr.followAll chars.toArray (text.map fun char => .set (.single char)) place targets =
      .stay (place + text.length) := by
  induction text generalizing place with
  | nil => rfl
  | cons char text ih =>
    have round : ∀ goals, Expr.follow chars.toArray (.set (.single char)) place goals =
      .stay (place + 1) := fun _ => rfl
    simp only [List.map_cons, Expr.followAll, round, Trail.stop_stay, ih, Trail.stay_append,
      List.length_cons]
    rw [Nat.add_right_comm, Nat.add_assoc]

/-- The expression of a placeholder starts where its group does, whether this may be left out or
not. -/
private theorem mem_startsAll_placeholder {name : String} {start : Nat} :
    start ∈ Expr.startsAll chars.toArray ((Token.placeholder name).exprs hasDefault) targets ↔
      start ∈ Expr.startsBefore chars.toArray (.rep 0 none true (.set .all)) targets := by
  have coversEmpty : ∀ place, (Expr.group (.named name) (.rep 0 none true (.set .all))).Covers
      chars.toArray place place := fun _ => ⟨0, by simp, rfl⟩
  simp only [Token.exprs, Expr.startsAll_cons, Expr.startsAll_nil]
  split
  · simp only [Expr.mem_startsBefore_iff, Expr.covers_optional_iff coversEmpty]
    rfl
  · rfl

/-- The search makes the round of a group that may be left out. -/
private theorem followAll_placeholder {name : String} {place : Nat}
    (member : place ∈ Expr.startsBefore chars.toArray (.rep 0 none true (.set .all)) targets) :
    Expr.followAll chars.toArray ((Token.placeholder name).exprs hasDefault) place targets =
      Expr.follow chars.toArray (.group (.named name) (.rep 0 none true (.set .all))) place
        targets := by
  simp only [Token.exprs, Expr.followAll_singleton]
  split
  · exact Expr.follow_optional member
  · rfl

/-- The expressions of a token start where a text that fits the token leads to a target. -/
theorem mem_startsAll_token {token : Token} {start : Nat} :
    start ∈ Expr.startsAll chars.toArray (token.exprs hasDefault) targets ↔
      ∃ part, token.Fits part ∧ part <+: chars.drop start ∧ start + part.length ∈ targets := by
  cases token with
  | literal text =>
    rw [Token.exprs, mem_startsAll_singles]
    constructor
    · rintro ⟨starts, member⟩
      exact ⟨text.toList, rfl, starts, member⟩
    · rintro ⟨_, rfl, starts, member⟩
      exact ⟨starts, member⟩
  | placeholder name =>
    rw [mem_startsAll_placeholder, Expr.mem_startsBefore_iff]
    simp only [Expr.covers_rep_set_iff, Token.Fits, CharSet.mem_all]
    constructor
    · rintro ⟨_, member, part, _, _, starts, rfl⟩
      exact ⟨part, trivial, starts, member⟩
    · rintro ⟨part, _, starts, member⟩
      exact ⟨_, member, part, Nat.zero_le _, fun _ _ => trivial, starts, rfl⟩
  | wildcard =>
    change start ∈ Expr.startsBefore chars.toArray (.rep 1 none true (.set .all)) targets ↔ _
    rw [Expr.mem_startsBefore_iff]
    simp only [Expr.covers_rep_set_iff, Token.Fits, CharSet.mem_all]
    constructor
    · rintro ⟨_, member, part, some, _, starts, rfl⟩
      exact ⟨part, List.length_pos_iff.mp some, starts, member⟩
    · rintro ⟨part, some, starts, member⟩
      exact ⟨_, member, part, List.length_pos_iff.mpr some, fun _ _ => trivial, starts, rfl⟩
  | word =>
    change start ∈ Expr.startsBefore chars.toArray (.rep 1 none true (.set .plus)) targets ↔ _
    rw [Expr.mem_startsBefore_iff]
    simp only [Expr.covers_rep_set_iff, Token.Fits, CharSet.mem_plus_iff]
    constructor
    · rintro ⟨_, member, part, some, names, starts, rfl⟩
      exact ⟨part, ⟨List.length_pos_iff.mp some, names⟩, starts, member⟩
    · rintro ⟨part, ⟨some, names⟩, starts, member⟩
      exact ⟨_, member, part, List.length_pos_iff.mpr some, names, starts, rfl⟩

/-- What is captured for a token whose part starts at a place. -/
def Token.captured (token : Token) (part : List Char) (place : Nat) : List Capture :=
  token.name?.toList.map fun name => ⟨name, place, place + part.length⟩

/-- A target that leaves room for a shorter part would be the end of one. -/
private theorem first_target {token : Token} {part : List Char} {place least : Nat}
    (starts : part <+: chars.drop place)
    (fits : ∀ length, least ≤ length → token.Fits (part.take length))
    (shortest : ∀ other, token.Fits other → other <+: chars.drop place →
      place + other.length ∈ targets → part.length ≤ other.length) :
    ∀ target ∈ targets, place + least ≤ target → place + part.length ≤ target := by
  intro target member enough
  by_contra short
  have length : (part.take (target - place)).length = target - place := by
    rw [List.length_take]
    omega
  have shorter := shortest (part.take (target - place)) (fits _ (by omega))
    ((List.take_prefix _ _).trans starts) (by rwa [length, Nat.add_sub_cancel' (by omega)])
  omega

/-- The search takes the shortest part for a token that leads to a target. -/
theorem followAll_token (hasDefault : String → Bool) {token : Token} {part : List Char} {place : Nat}
    (fits : token.Fits part) (starts : part <+: chars.drop place) (member : place + part.length ∈ targets)
    (inside : place + part.length ≤ chars.length)
    (shortest : ∀ other, token.Fits other → other <+: chars.drop place →
      place + other.length ∈ targets → part.length ≤ other.length) :
    Expr.followAll chars.toArray (token.exprs hasDefault) place targets =
      ⟨place + part.length, token.captured part place⟩ := by
  have repeated : ∀ (least : Nat) (allowed : CharSet), least ≤ part.length →
      (∀ length, least ≤ length → token.Fits (part.take length)) →
      Expr.follow chars.toArray (.rep least none true (.set allowed)) place targets =
        .stay (place + part.length) := fun least allowed enough fits =>
    Expr.follow_rep_set member (first_target starts fits shortest) (by omega) (by simpa using inside)
  cases token with
  | literal text =>
    rw [Token.exprs, follow_singles, fits]
    rfl
  | placeholder name =>
    have round := repeated 0 .all (Nat.zero_le _) fun _ _ => trivial
    have reaches : place ∈ Expr.startsAll chars.toArray
        ((Token.placeholder name).exprs hasDefault) targets :=
      mem_startsAll_token.mpr ⟨part, fits, starts, member⟩
    rw [followAll_placeholder (mem_startsAll_placeholder.mp reaches), Expr.follow, round]
    rfl
  | wildcard =>
    have some : 1 ≤ part.length := List.length_pos_iff.mpr fits
    have round := repeated 1 .all some fun length enough => by
      simpa [Token.Fits, List.take_eq_nil_iff] using ⟨by omega, fits⟩
    rw [Token.exprs, Expr.followAll_singleton, round]
    rfl
  | word =>
    obtain ⟨nonempty, names⟩ := fits
    have some : 1 ≤ part.length := List.length_pos_iff.mpr nonempty
    have round := repeated 1 .plus some fun length enough => by
      refine ⟨by simpa [List.take_eq_nil_iff] using ⟨by omega, nonempty⟩, fun char member => ?_⟩
      exact names char (List.mem_of_mem_take member)
    rw [Token.exprs, Expr.followAll_singleton, round]
    rfl

end Token

/-! ## All tokens -/

/-- What is captured for some tokens whose parts start at a place, one after the other. -/
def captured : (tokens : List Token) → (parts : List (List Char)) → (place : Nat) → List Capture
  | token :: tokens, part :: parts, place =>
    token.captured part place ++ captured tokens parts (place + part.length)
  | _, _, _ => []

section Tokens

variable {chars : List Char} {tokens : List Token} {place : Nat} {hasDefault : String → Bool}

/-- The expressions of some tokens start where the tokens have a decomposition of what is left of
the text. -/
theorem mem_startsAll_tokens (inside : place ≤ chars.length) :
    place ∈ Expr.startsAll chars.toArray (tokens.flatMap (Token.exprs hasDefault))
        [chars.length] ↔
      ∃ parts, IsDecomposition tokens parts (chars.drop place) := by
  induction tokens generalizing place with
  | nil =>
    simp only [List.flatMap_nil, Expr.startsAll_nil, List.mem_singleton, IsDecomposition.nil_iff,
      exists_eq_left, List.drop_eq_nil_iff]
    omega
  | cons token tokens ih =>
    rw [List.flatMap_cons, Expr.startsAll_append, mem_startsAll_token,
      IsDecomposition.exists_cons_iff]
    refine exists_congr fun part => and_congr_right fun _ => and_congr_right fun starts => ?_
    have room := starts.length_le
    rw [List.length_drop] at room
    rw [ih (by omega), List.drop_drop]

/-- The search takes the preferred decomposition. -/
theorem followAll_tokens (hasDefault : String → Bool) {parts : List (List Char)}
    (inside : place ≤ chars.length)
    (preferred : IsPreferred tokens parts (chars.drop place)) :
    Expr.followAll chars.toArray (tokens.flatMap (Token.exprs hasDefault)) place
        [chars.length] =
      ⟨chars.length, captured tokens parts place⟩ := by
  induction tokens generalizing place parts with
  | nil =>
    obtain ⟨rfl, nothing⟩ := IsDecomposition.nil_iff.mp preferred.decomposes
    have arrived : place = chars.length := by
      rw [List.drop_eq_nil_iff] at nothing
      omega
    rw [arrived]
    rfl
  | cons token tokens ih =>
    cases parts with
    | nil => nomatch preferred.decomposes.fits
    | cons part parts =>
      obtain ⟨rest, fits, whole, _⟩ := IsDecomposition.cons_iff.mp preferred.decomposes
      have starts : part <+: chars.drop place := ⟨rest, whole.symm⟩
      have room := starts.length_le
      rw [List.length_drop] at room
      have behind := preferred.tail
      rw [List.drop_drop] at behind
      have reaches : place + part.length ∈
          Expr.startsAll chars.toArray (tokens.flatMap (Token.exprs hasDefault)) [chars.length] :=
        (mem_startsAll_tokens (by omega)).mpr ⟨parts, behind.decomposes⟩
      have round := followAll_token hasDefault fits starts reaches (by omega)
        (fun other fits starts member => by
          have shorter := starts.length_le
          rw [List.length_drop] at shorter
          apply preferred.length_head_le fits starts
          rw [List.drop_drop]
          exact (mem_startsAll_tokens (by omega)).mp member)
      rw [List.flatMap_cons, Expr.followAll_append, round, ih (by omega) behind]
      rfl

end Tokens

end TextTemplate
