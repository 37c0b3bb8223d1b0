import TextTemplate.Proofs.Template.Pieces

/-!
# Where the signs of a template stand

The places of a template's signs do not depend on how the template is read: a sign counts wherever
it is spelled, unless a backslash stands directly before it. The occurrences that count never
overlap, and what lies around them is literal text, of which only the backslashes directly before an
opening brace, a star or a plus are left out. -/

namespace TextTemplate

structure Occurrence where
  place : Nat
  token : Token
deriving DecidableEq, Repr

namespace Occurrence

def stop (occurrence : Occurrence) : Nat := occurrence.place + occurrence.token.spelling.length

end Occurrence

/-- The character before the place is a backslash. -/
def IsBehindBackslash (text : List Char) (place : Nat) : Prop :=
  ∃ before, place = before + 1 ∧ text[before]? = some '\\'

/-- A sign is spelled at the place, and no backslash stands directly before it. -/
structure Occurrence.IsActive (text : List Char) (occurrence : Occurrence) : Prop where
  sign : occurrence.token.IsSign
  spelled : occurrence.token.spelling <+: text.drop occurrence.place
  free : ¬ IsBehindBackslash text occurrence.place

/-- Whether a backslash stands at the place, directly before an opening brace, a star or a plus. -/
def isEscape (text : List Char) (place : Nat) : Bool :=
  text[place]? == some '\\' && text[place + 1]?.any Token.isEscapable

/-- The literal text between two places. -/
def literalBetween (text : List Char) (start stop : Nat) : List Char :=
  (List.range' start (stop - start)).filterMap fun place =>
    if isEscape text place then none else text[place]?

/-- A part of a template's text: what lies between two places without an active occurrence, or an
active occurrence. -/
inductive Stretch
  | literal (start stop : Nat)
  | sign (occurrence : Occurrence)
deriving DecidableEq, Repr

namespace Stretch

def chars (text : List Char) : Stretch → List Char
  | literal start stop => (text.drop start).take (stop - start)
  | sign occurrence => occurrence.token.spelling

/-- The tokens that the part stands for; there is none for literal text that is empty. -/
def tokens (text : List Char) : Stretch → List Token
  | literal start stop =>
    let kept := literalBetween text start stop
    if kept = [] then [] else [.literal (String.ofList kept)]
  | sign occurrence => [occurrence.token]

end Stretch

/-- The parts of a text of some length from a place on, where some occurrences come one after the
other. -/
def stretches (length : Nat) : (start : Nat) → List Occurrence → List Stretch
  | start, [] => [.literal start length]
  | start, occurrence :: later =>
    .literal start occurrence.place :: .sign occurrence :: stretches length occurrence.stop later

/-! ## Places of a text -/

section Places

variable {text rest : List Char} {char : Char} {start : Nat}

theorem getElem?_of_drop_eq_cons (here : text.drop start = char :: rest) :
    text[start]? = some char := by
  rw [← List.head?_drop, here, List.head?_cons]

theorem drop_succ_of_drop_eq_cons (here : text.drop start = char :: rest) :
    text.drop (start + 1) = rest := by
  rw [← List.tail_drop, here, List.tail_cons]

theorem isEscape_of_drop_eq_cons (here : text.drop start = char :: rest) :
    isEscape text start = (char == '\\' && rest.head?.any Token.isEscapable) := by
  rw [isEscape, getElem?_of_drop_eq_cons here, ← List.head?_drop, drop_succ_of_drop_eq_cons here]
  rfl

/-- Behind a character other than a backslash a sign counts. -/
theorem not_isBehindBackslash_succ (found : text[start]? = some char) (different : char ≠ '\\') :
    ¬ IsBehindBackslash text (start + 1) := by
  rintro ⟨before, same, backslash⟩
  obtain rfl := Nat.succ.inj same
  exact different (Option.some.inj (found.symm.trans backslash))

end Places

namespace Occurrence.IsActive

variable {text : List Char} {occurrence other : Occurrence}

/-- The characters from the place on are those of the sign. -/
theorem getElem?_eq (active : occurrence.IsActive text) {offset : Nat}
    (inside : offset < occurrence.token.spelling.length) :
    text[occurrence.place + offset]? = occurrence.token.spelling[offset]? := by
  obtain ⟨rest, whole⟩ := active.spelled
  rw [← List.getElem?_drop, ← whole, List.getElem?_append_left inside]

/-- The character at the place is one that a backslash could make stand for itself. -/
theorem exists_getElem? (active : occurrence.IsActive text) :
    ∃ char, text[occurrence.place]? = some char ∧ Token.isEscapable char = true := by
  obtain ⟨first, more, spelling, escapable⟩ := active.sign.exists_spelling_eq
  refine ⟨first, ?_, escapable⟩
  rw [← Nat.add_zero occurrence.place, active.getElem?_eq (by simp [spelling]), spelling]
  rfl

/-- Active occurrences do not overlap. -/
theorem eq_or_stop_le (active : occurrence.IsActive text) (otherActive : other.IsActive text)
    (above : occurrence.place ≤ other.place) :
    occurrence = other ∨ occurrence.stop ≤ other.place := by
  by_contra overlap
  obtain ⟨different, inside⟩ := not_or.mp overlap
  obtain ⟨offset, same⟩ := Nat.exists_eq_add_of_le above
  cases offset with
  | zero =>
    have spelled := otherActive.spelled
    rw [same, Nat.add_zero] at spelled
    have tokens : occurrence.token = other.token :=
      active.sign.eq_of_spelling_prefix otherActive.sign active.spelled spelled
    cases occurrence
    cases other
    simp_all
  | succ offset =>
    obtain ⟨char, found, escapable⟩ := otherActive.exists_getElem?
    rw [same, active.getElem?_eq (by rw [Occurrence.stop] at inside; omega)] at found
    have member : char ∈ occurrence.token.spelling.tail :=
      List.mem_of_getElem? (by rw [List.getElem?_tail, found])
    exact Bool.false_ne_true ((active.sign.of_mem_tail member).1.symm.trans escapable)

/-- The last character of a sign is no backslash. -/
theorem not_isBehindBackslash_stop (active : occurrence.IsActive text) :
    ¬ IsBehindBackslash text occurrence.stop := by
  obtain ⟨first, more, spelling, _⟩ := active.sign.exists_spelling_eq
  have place : occurrence.stop = occurrence.place + more.length + 1 := by
    rw [Occurrence.stop, spelling, List.length_cons, Nat.add_assoc]
  have inside : more.length < occurrence.token.spelling.length := by simp [spelling]
  obtain ⟨char, found⟩ : ∃ char, occurrence.token.spelling[more.length]? = some char := by
    simp [spelling]
  rw [place]
  exact not_isBehindBackslash_succ ((active.getElem?_eq inside).trans found)
    (active.sign.ne_backslash_of_mem (List.mem_of_getElem? found))

/-- Where no sign is spelled, no active occurrence starts. -/
theorem lt_place (active : occurrence.IsActive text) {start : Nat}
    (above : start ≤ occurrence.place)
    (noSign : ∀ token : Token, token.IsSign → ¬ token.spelling <+: text.drop start) :
    start < occurrence.place := by
  refine Nat.lt_of_le_of_ne above ?_
  rintro rfl
  exact noSign _ active.sign active.spelled

end Occurrence.IsActive

/-! ## Parts of a text -/

section Parts

variable {text rest : List Char} {char : Char} {start stop : Nat} {occurrences : List Occurrence}

/-- Occurrences that come one after the other make up the text together with what lies between
them. -/
theorem flatMap_chars_stretches (above : ∀ occurrence ∈ occurrences, start ≤ occurrence.place)
    (spelled : ∀ occurrence ∈ occurrences,
      occurrence.token.spelling <+: text.drop occurrence.place)
    (ordered : occurrences.Pairwise fun first second => first.stop ≤ second.place) :
    (stretches text.length start occurrences).flatMap (Stretch.chars text) = text.drop start := by
  induction occurrences generalizing start with
  | nil =>
    simp only [stretches, Stretch.chars, List.flatMap_cons, List.flatMap_nil, List.append_nil]
    exact List.take_of_length_le (by simp)
  | cons occurrence later ih =>
    obtain ⟨apart, ordered⟩ := List.pairwise_cons.mp ordered
    obtain ⟨here, spelled⟩ := List.forall_mem_cons.mp spelled
    obtain ⟨rest, split⟩ := here
    have behind : text.drop occurrence.stop = rest := by
      rw [Occurrence.stop, ← List.drop_drop, ← split, List.drop_left]
    have before :
        (text.drop start).drop (occurrence.place - start) = text.drop occurrence.place := by
      rw [List.drop_drop, Nat.add_sub_cancel' (above _ (List.mem_cons_self ..))]
    calc (stretches text.length start (occurrence :: later)).flatMap (Stretch.chars text)
        = (text.drop start).take (occurrence.place - start) ++ (occurrence.token.spelling ++
            (stretches text.length occurrence.stop later).flatMap (Stretch.chars text)) := rfl
      _ = (text.drop start).take (occurrence.place - start) ++ text.drop occurrence.place := by
          rw [ih apart spelled ordered, behind, split]
      _ = text.drop start := by rw [← before, List.take_append_drop]

theorem literalBetween_self (text : List Char) (place : Nat) :
    literalBetween text place place = [] := by
  simp [literalBetween]

/-- The first character of literal text is left out if it is a backslash that escapes the next
one. -/
theorem literalBetween_cons (less : start < stop) (found : text[start]? = some char) :
    literalBetween text start stop =
      if isEscape text start then literalBetween text (start + 1) stop
      else char :: literalBetween text (start + 1) stop := by
  obtain ⟨count, same⟩ : ∃ count, stop - start = count + 1 := ⟨stop - start - 1, by omega⟩
  have others : stop - (start + 1) = count := by omega
  rw [literalBetween, same, List.range'_succ, List.filterMap_cons, literalBetween, others, found]
  cases isEscape text start <;> rfl

end Parts

/-! ## Reading and places -/

namespace Token

/-- The literal text from a place to the first of some occurrences, and the tokens from there on. -/
def gathered (text : List Char) (start : Nat) : List Occurrence → List Char × List Token
  | [] => (literalBetween text start text.length, [])
  | occurrence :: later =>
    (literalBetween text start occurrence.place, occurrence.token ::
      (stretches text.length occurrence.stop later).flatMap (Stretch.tokens text))

theorem behind_gathered (text : List Char) (start : Nat) (occurrences : List Occurrence) :
    behind (gathered text start occurrences).1 (gathered text start occurrences).2 =
      (stretches text.length start occurrences).flatMap (Stretch.tokens text) := by
  cases occurrences with
  | nil => simp [behind, gathered, stretches, Stretch.tokens]
  | cons occurrence later =>
    cases kept : literalBetween text start occurrence.place <;>
      simp [behind, gathered, stretches, Stretch.tokens, kept]

theorem gathered_self (text : List Char) (occurrence : Occurrence) (later : List Occurrence) :
    gathered text occurrence.place (occurrence :: later) =
      ([], occurrence.token :: behind (gathered text occurrence.stop later).1
        (gathered text occurrence.stop later).2) := by
  rw [behind_gathered, gathered, literalBetween_self]

theorem gathered_cons {text : List Char} {start : Nat} {char : Char} {occurrences : List Occurrence}
    (found : text[start]? = some char)
    (above : ∀ occurrence ∈ occurrences, start < occurrence.place) :
    gathered text start occurrences =
      if isEscape text start then gathered text (start + 1) occurrences
      else (char :: (gathered text (start + 1) occurrences).1,
        (gathered text (start + 1) occurrences).2) := by
  cases occurrences with
  | nil =>
    have inside : start < text.length := (List.getElem?_eq_some_iff.mp found).1
    rw [gathered, literalBetween_cons inside found]
    split <;> rfl
  | cons occurrence later =>
    rw [gathered, literalBetween_cons (above _ (List.mem_cons_self ..)) found]
    split <;> rfl

/-- Some occurrences are found from a place of a text on, where some pieces are read: they are the
active ones from there on, in the order of their places, and the pieces are gathered as they and the
literal text around them. -/
structure Finds (text : List Char) (start : Nat) (pieces : List Piece)
    (occurrences : List Occurrence) : Prop where
  members : ∀ occurrence, occurrence ∈ occurrences ↔
    occurrence.IsActive text ∧ start ≤ occurrence.place
  ordered : occurrences.Pairwise fun first second => first.stop ≤ second.place
  gathers : gather pieces = gathered text start occurrences

namespace Finds

variable {text rest : List Char} {start : Nat} {char : Char} {token : Token}
  {pieces : List Piece} {occurrences : List Occurrence}

/-- Nothing is found at the end of the text. -/
theorem nil (here : text.drop start = []) : Finds text start [] [] where
  members occurrence := by
    refine iff_of_false List.not_mem_nil ?_
    rintro ⟨active, above⟩
    obtain ⟨char, found, _⟩ := active.exists_getElem?
    have inside := (List.getElem?_eq_some_iff.mp found).1
    have short : text.length ≤ start := List.drop_eq_nil_iff.mp here
    omega
  ordered := .nil
  gathers := by
    have short : text.length ≤ start := List.drop_eq_nil_iff.mp here
    simp [gather, gathered, literalBetween, Nat.sub_eq_zero_of_le short]

/-- An active occurrence is found at its place, and no other one before its end. -/
theorem sign (active : Occurrence.IsActive text ⟨start, token⟩)
    (found : Finds text (Occurrence.stop ⟨start, token⟩) pieces occurrences) :
    Finds text start (.token token :: pieces) (⟨start, token⟩ :: occurrences) where
  members occurrence := by
    rw [List.mem_cons, found.members]
    constructor
    · rintro (rfl | ⟨later, above⟩)
      · exact ⟨active, Nat.le_refl _⟩
      · exact ⟨later, Nat.le_trans (Nat.le_add_right ..) above⟩
    · rintro ⟨later, above⟩
      exact (active.eq_or_stop_le later above).imp Eq.symm fun apart => ⟨later, apart⟩
  ordered := List.pairwise_cons.mpr
    ⟨fun occurrence member => ((found.members occurrence).mp member).2, found.ordered⟩
  gathers := by
    rw [gather, found.gathers]
    exact (gathered_self text ⟨start, token⟩ occurrences).symm

/-- No occurrence is found at a backslash, nor at the character that it makes stand for itself. -/
theorem escaped (here : text.drop start = '\\' :: char :: rest)
    (escapable : isEscapable char = true) (different : char ≠ '\\')
    (found : Finds text (start + 2) pieces occurrences) :
    Finds text start (.char char :: pieces) occurrences where
  members occurrence := by
    rw [found.members]
    refine and_congr_right fun active => ⟨Nat.le_of_add_right_le, fun above => ?_⟩
    have notHere := active.lt_place above fun token sign => by
      rw [here]
      exact not_isSign_spelling_prefix rfl sign
    have notNext : occurrence.place ≠ start + 1 := fun same =>
      active.free ⟨start, same, getElem?_of_drop_eq_cons here⟩
    omega
  ordered := found.ordered
  gathers := by
    have next := drop_succ_of_drop_eq_cons here
    have above := fun occurrence member => ((found.members occurrence).mp member).2
    rw [gathered_cons (getElem?_of_drop_eq_cons here)
        fun occurrence member => Nat.lt_of_succ_lt (above occurrence member),
      isEscape_of_drop_eq_cons here, gathered_cons (getElem?_of_drop_eq_cons next) above,
      isEscape_of_drop_eq_cons next]
    simp [gather, found.gathers, escapable, different]

/-- No occurrence is found at a character that is neither the start of a sign nor a backslash that
makes another character stand for itself. -/
theorem plain (here : text.drop start = char :: rest) (plain : IsPlain char rest)
    (found : Finds text (start + 1) pieces occurrences) :
    Finds text start (.char char :: pieces) occurrences where
  members occurrence := by
    rw [found.members]
    refine and_congr_right fun active => ⟨Nat.le_of_succ_le, fun above => ?_⟩
    exact active.lt_place above (here ▸ plain.noSign)
  ordered := found.ordered
  gathers := by
    have kept : isEscape text start = false := by
      rw [isEscape_of_drop_eq_cons here]
      cases rest with
      | nil => simp
      | cons following rest =>
        by_cases backslash : char = '\\'
        · simp [plain.noEscape backslash following rfl]
        · simp [backslash]
    rw [gathered_cons (getElem?_of_drop_eq_cons here) fun occurrence member =>
      ((found.members occurrence).mp member).2, kept]
    simp [gather, found.gathers]

end Finds

/-- Reading a text from a place on finds the active occurrences from there on, provided that no
backslash stands directly before the place and could make the character there stand for itself. -/
theorem Reads.exists_occurrences {text rest : List Char} {pieces : List Piece}
    (reads : Reads rest pieces) {start : Nat} (here : text.drop start = rest)
    (free : ∀ char ∈ rest.head?, isEscapable char = true → ¬ IsBehindBackslash text start) :
    ∃ occurrences, Finds text start pieces occurrences := by
  induction reads generalizing start with
  | nil => exact ⟨[], .nil here⟩
  | @sign token rest pieces later sign ih =>
    obtain ⟨first, more, spelling, escapable⟩ := sign.exists_spelling_eq
    have active : Occurrence.IsActive text ⟨start, token⟩ :=
      ⟨sign, ⟨rest, here.symm⟩, free first (by simp [spelling]) escapable⟩
    have behind : text.drop (Occurrence.stop ⟨start, token⟩) = rest := by
      rw [Occurrence.stop, ← List.drop_drop, here, List.drop_left]
    obtain ⟨occurrences, found⟩ := ih behind fun _ _ _ => active.not_isBehindBackslash_stop
    exact ⟨_, found.sign active⟩
  | @escaped char rest pieces later escapable ih =>
    have next := drop_succ_of_drop_eq_cons here
    have different : char ≠ '\\' := by
      rintro rfl
      contradiction
    obtain ⟨occurrences, found⟩ := ih (drop_succ_of_drop_eq_cons next)
      fun _ _ _ => not_isBehindBackslash_succ (getElem?_of_drop_eq_cons next) different
    exact ⟨_, found.escaped here escapable different⟩
  | @plain char rest pieces later plain ih =>
    obtain ⟨occurrences, found⟩ := ih (drop_succ_of_drop_eq_cons here)
      fun following found escapable => by
        refine not_isBehindBackslash_succ (getElem?_of_drop_eq_cons here) fun backslash => ?_
        exact Bool.false_ne_true ((plain.noEscape backslash following found).symm.trans escapable)
    exact ⟨_, found.plain here plain⟩

end Token

/-- The tokens of a template are its active signs, in the order of their places, and the literal
text around them. Active occurrences do not overlap, and together with what lies between them they
make up the text. -/
theorem tokenize_eq_flatMap_stretches (template : String) :
    ∃ occurrences : List Occurrence,
      (∀ occurrence, occurrence ∈ occurrences ↔ occurrence.IsActive template.toList) ∧
      (occurrences.Pairwise fun first second => first.stop ≤ second.place) ∧
      (stretches template.length 0 occurrences).flatMap (Stretch.chars template.toList) =
        template.toList ∧
      tokenize template =
        (stretches template.length 0 occurrences).flatMap (Stretch.tokens template.toList) := by
  have whole : template.toList.drop 0 = template.toList := List.drop_zero
  have free : ¬ IsBehindBackslash template.toList 0 := fun ⟨_, same, _⟩ => nomatch same
  obtain ⟨occurrences, members, ordered, same⟩ :=
    (Token.reads_pieces template.toList).exists_occurrences whole fun _ _ _ => free
  have active : ∀ occurrence, occurrence ∈ occurrences ↔ occurrence.IsActive template.toList := by
    simpa using members
  rw [← String.length_toList]
  refine ⟨occurrences, active, ordered, ?_, ?_⟩
  · exact flatMap_chars_stretches (fun _ _ => Nat.zero_le _)
      (fun occurrence member => ((active occurrence).mp member).spelled) ordered
  · rw [tokenize, Token.ofText, ← Token.behind_gathered, same]

/-- The second backslash makes the star literal text, and the first one stays. -/
example :
    tokenize "\\\\*\x7b{ab}\x7d" =
      (stretches 9 0 [⟨4, .placeholder "ab"⟩]).flatMap
        (Stretch.tokens "\\\\*\x7b{ab}\x7d".toList) := by
  decide +kernel

end TextTemplate
