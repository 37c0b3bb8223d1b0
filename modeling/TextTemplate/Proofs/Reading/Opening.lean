import TextTemplate.Expr.Opening
import TextTemplate.Proofs.Reading.Result
import TextTemplate.Proofs.Reading.Rule

/-!
# The rule for openings of groups

What an opening parenthesis starts is read by a local rule, up to the place of a name. -/

namespace TextTemplate.Opening

open Rule

variable {extended : Bool} {margin : Nat} {cursor after : Cursor}

def unplaced : Opening → Opening
  | capture (some (name, _)) => capture (some (name, default))
  | opening => opening

theorem eq_of_unplaced_eq_named {name : String} {span : Span} {opening : Opening}
    (same : unplaced (capture (some (name, span))) = opening.unplaced) :
    ∃ other, opening = capture (some (name, other)) := by
  cases opening with
  | capture named =>
    rcases named with _ | ⟨_, other⟩
    · cases same
    · cases same
      exact ⟨other, rfl⟩
  | plain => cases same
  | directive => cases same

theorem eq_of_unplaced_eq {placed opening : Opening} (same : placed.unplaced = opening.unplaced)
    (unnamed : ∀ name, placed ≠ capture (some name)) : opening = placed := by
  unfold unplaced at same
  split at same <;> split at same <;> simp_all

/-! ## Names -/

def named (name : List Char) : Rule :=
  provided (name ≠ []) <| before (fun char => char = '>' ∨ isNameStart char = true) <|
    taking false isNameChar name (sign '>')

theorem isTaking_named (name : List Char) : (named name).IsTaking margin :=
  isTaking_provided fun _ => ((isTaking_sign '>').taking ..).before _

theorem readName_eq_ok_iff {opening : Opening} :
    readName cursor = .ok (opening, after) ↔
      ∃ name span, named name cursor after ∧
        span = (cursor.takeWhile false isNameChar).2.since cursor.offset ∧
        opening = .capture (some (String.ofList name, span)) := by
  simp only [readName, guard_eq_ok_iff]
  constructor
  · rintro ⟨starts, read⟩
    split at read
    · simp [throw, throwThe, MonadExceptOf.throw] at read
    · next bracket =>
      simp only [guard_eq_ok_iff, pure_eq_ok_iff, Prod.mk.injEq] at read
      obtain ⟨notEmpty, rfl, rfl⟩ := read
      have goesOn := (cursor.leadsTo_takeWhile false isNameChar).ne_nil
        (Cursor.ne_nil_of_peek? bracket)
      obtain ⟨char, text, split⟩ := List.exists_cons_of_ne_nil goesOn
      have peek : cursor.peek? = some char := by rw [Cursor.peek?, split]; rfl
      refine ⟨_, _, ⟨mt List.isEmpty_iff.mpr notEmpty, ⟨char, peek, ?_⟩, rfl, bracket, rfl⟩, rfl, rfl⟩
      simpa [peek, Decidable.or_iff_not_imp_left] using starts
    · simp [throw, throwThe, MonadExceptOf.throw] at read
  · rintro ⟨name, _, ⟨notEmpty, ⟨char, peek, starts⟩, rfl, bracket, rfl⟩, rfl, rfl⟩
    refine ⟨?_, ?_⟩
    · simpa [peek, Decidable.or_iff_not_imp_left] using starts
    · simp [bracket, notEmpty]

/-! ## Flags -/

def endsFlags (char : Char) : Prop := char = ':' ∨ char = ')'

/-- Letters of flags and a hyphen, each at most once and not among those seen, the hyphen not at the
end. -/
def AreFlags : (seen : List Char) → List Char → Prop
  | seen, [] => seen.head? ≠ some '-'
  | seen, char :: flags =>
    ¬ endsFlags char ∧ (char = '-' ∨ Flags.letters.contains char = true) ∧ char ∉ seen ∧
      AreFlags (char :: seen) flags

section ReadFlags

variable {offset : Nat} {seen : List (Char × Span)} {char : Char} {text flags : List Char}
  {close : Cursor}

private theorem readFlags_of_endsFlags (ends : endsFlags char) :
    readFlags offset seen (char :: text) = .ok (flags, close) ↔
      (seen.map Prod.fst).head? ≠ some '-' ∧ flags = (seen.map Prod.fst).reverse ∧
        close = ⟨offset, char :: text⟩ := by
  unfold endsFlags at ends
  unfold readFlags
  rw [if_pos ends]
  split
  · simp
  · next noHyphen =>
    have different : (seen.map Prod.fst).head? ≠ some '-' := by
      intro same
      rcases seen with _ | ⟨⟨key, span⟩, seen⟩
      · simp at same
      · obtain rfl : key = '-' := by simpa using same
        exact noHyphen span seen rfl
    simp only [Except.ok.injEq, Prod.mk.injEq, different, ne_eq, not_false_eq_true, true_and]
    exact and_congr eq_comm eq_comm

private theorem readFlags_of_not_endsFlags (goesOn : ¬ endsFlags char) :
    readFlags offset seen (char :: text) = .ok (flags, close) ↔
      (char = '-' ∨ Flags.letters.contains char = true) ∧ char ∉ seen.map Prod.fst ∧
        readFlags (offset + 1) ((char, ⟨offset, offset + 1⟩) :: seen) text = .ok (flags, close) := by
  unfold endsFlags at goesOn
  conv => lhs; unfold readFlags
  rw [if_neg goesOn]
  split
  · next unknown => simp_all
  · next known =>
    have given : char = '-' ∨ Flags.letters.contains char = true := by
      simpa [Decidable.or_iff_not_imp_left] using known
    split
    · next first found =>
      have member : char ∈ seen.map Prod.fst := by
        obtain ⟨before, behind, rfl, _⟩ := List.lookup_eq_some_iff.mp found
        simp
      simp [member]
    · next absent =>
      have fresh : char ∉ seen.map Prod.fst := by
        rw [List.lookup_eq_none_iff] at absent
        simpa using fun span member => by simpa using absent _ member
      simp only [given, fresh, not_false_eq_true, true_and]

theorem readFlags_eq_ok_iff :
    readFlags offset seen text = .ok (flags, close) ↔
      ∃ more last rest, endsFlags last ∧ AreFlags (seen.map Prod.fst) more ∧
        text = more ++ last :: rest ∧ flags = (seen.map Prod.fst).reverse ++ more ∧
        close = ⟨offset + more.length, last :: rest⟩ := by
  induction text generalizing offset seen with
  | nil => simp [readFlags]
  | cons char text ih =>
    by_cases ends : endsFlags char
    · rw [readFlags_of_endsFlags ends]
      constructor
      · rintro ⟨different, rfl, rfl⟩
        exact ⟨[], char, text, ends, different, rfl, by simp, rfl⟩
      · rintro ⟨more, last, rest, _, areFlags, split, rfl, rfl⟩
        cases more with
        | nil =>
          cases split
          exact ⟨areFlags, by simp, rfl⟩
        | cons first more =>
          cases split
          exact absurd ends areFlags.1
    · rw [readFlags_of_not_endsFlags ends, ih]
      constructor
      · rintro ⟨known, absent, more, last, rest, endsLast, areFlags, rfl, rfl, rfl⟩
        refine ⟨char :: more, last, rest, endsLast, ⟨ends, known, absent, areFlags⟩, rfl, by simp, ?_⟩
        simp only [List.length_cons, Cursor.mk.injEq, and_true]
        omega
      · rintro ⟨more, last, rest, endsLast, areFlags, split, rfl, rfl⟩
        cases more with
        | nil =>
          cases split
          contradiction
        | cons first more =>
          cases split
          obtain ⟨_, known, absent, areFlags⟩ := areFlags
          refine ⟨known, absent, more, last, rest, endsLast, areFlags, rfl, by simp, ?_⟩
          simp only [List.length_cons, Cursor.mk.injEq, and_true]
          omega

end ReadFlags

/-! ## Openings -/

/-- What an opening stands for in a text, the place of its name aside. -/
def opens (extended : Bool) (opening : Opening) : Rule :=
  Relation.Comp (oneOf sign) <| Relation.Comp (blank extended) <|
    match opening with
    | capture none => stays (· ≠ some '?')
    | capture (some (name, _)) =>
      either (Relation.Comp (signs ['?', 'P', '<']) (named name.toList)) <|
        Relation.Comp (signs ['?', '<']) <|
          before (fun char => char ≠ '=' ∧ char ≠ '!') (named name.toList)
    | plain flags => provided (AreFlags [] flags) (signs ('?' :: flags ++ [':']))
    | directive flags =>
      provided (AreFlags [] flags ∧ flags ≠ []) (signs ('?' :: flags ++ [')']))

theorem isTaking_opens (opening : Opening) : (opens extended opening).IsTaking margin := by
  refine (isTaking_oneOf isTaking_sign).andThen ((isLocal_blank _).andThen ?_)
  split
  · exact isLocal_stays (by simp)
  · exact ((isLocal_signs _).andThen (isTaking_named _).toIsLocal).either <|
      (isLocal_signs _).andThen ((isTaking_named _).before _).toIsLocal
  · exact isLocal_provided fun _ => isLocal_signs _
  · exact isLocal_provided fun _ => isLocal_signs _

theorem readFlagged_eq_ok_iff {parenthesis : Span} {opening : Opening}
    (question : cursor.peek? = some '?') :
    readFlagged parenthesis cursor = .ok (opening, after) ↔
      ∃ flags, AreFlags [] flags ∧
        ((opening = .plain flags ∧ signs ('?' :: flags ++ [':']) cursor after) ∨
          (opening = .directive flags ∧ flags ≠ [] ∧ signs ('?' :: flags ++ [')']) cursor after)) := by
  obtain ⟨offset, whole⟩ := cursor
  obtain ⟨text, rfl⟩ := List.head?_eq_some_iff.mp question
  simp only [readFlagged, Cursor.next_cons, guard_eq_ok_iff, bind_eq_ok_iff]
  constructor
  · rintro ⟨_, ⟨flags, close⟩, found, read⟩
    obtain ⟨_, last, rest, ends, areFlags, rfl, rfl, rfl⟩ := readFlags_eq_ok_iff.mp found
    refine ⟨flags, areFlags, ?_⟩
    dsimp only at read
    rcases ends with rfl | rfl
    · rw [Cursor.peek?_cons, if_pos rfl, pure_eq_ok_iff, Prod.mk.injEq] at read
      obtain ⟨rfl, rfl⟩ := read
      exact .inl ⟨rfl, by simp, by simp; omega⟩
    · rw [if_neg (by simp), guard_eq_ok_iff, pure_eq_ok_iff, Prod.mk.injEq,
        List.isEmpty_iff] at read
      obtain ⟨notEmpty, rfl, rfl⟩ := read
      exact .inr ⟨rfl, notEmpty, by simp, by simp; omega⟩
  · have close (flags : List Char) (last : Char)
        (split : '?' :: text = '?' :: flags ++ [last] ++ after.rest)
        (place : after.offset = offset + ('?' :: flags ++ [last]).length) :
        text = flags ++ last :: after.rest ∧
          Cursor.next ⟨offset + 1 + flags.length, last :: after.rest⟩ = after := by
      refine ⟨by simpa using split, ?_⟩
      cases after
      simp at place ⊢
      omega
    rintro ⟨flags, areFlags, ⟨rfl, split, place⟩ | ⟨rfl, notEmpty, split, place⟩⟩
    · obtain ⟨rfl, stops⟩ := close flags ':' split place
      refine ⟨by simp, (flags, _),
        readFlags_eq_ok_iff.mpr ⟨flags, ':', _, .inl rfl, areFlags, rfl, rfl, rfl⟩, ?_⟩
      dsimp only
      rw [Cursor.peek?_cons, if_pos rfl, stops]
      rfl
    · obtain ⟨rfl, stops⟩ := close flags ')' split place
      refine ⟨by simp, (flags, _),
        readFlags_eq_ok_iff.mpr ⟨flags, ')', _, .inr rfl, areFlags, rfl, rfl, rfl⟩, ?_⟩
      simp [notEmpty, stops]

/-- Flags are not taken for the start of a name or of a look around. -/
private theorem read_of_areFlags {flags text : List Char} {last : Char} (areFlags : AreFlags [] flags)
    (ends : endsFlags last) (inside : (cursor.advance extended).rest = '?' :: flags ++ last :: text) :
    read extended cursor = readFlagged cursor.sign (cursor.advance extended) := by
  have first : ∀ char rest, flags ++ last :: text = char :: rest →
      char ∉ ['=', '!', '<', 'P'] := by
    intro char rest split
    cases flags with
    | nil =>
      cases split
      rcases ends with rfl | rfl <;> decide
    | cons flag flags =>
      cases split
      rcases areFlags.2.1 with rfl | known
      · decide
      · intro member
        revert known
        simp only [List.mem_cons, List.not_mem_nil, or_false] at member
        rcases member with rfl | rfl | rfl | rfl <;> decide
  unfold read
  dsimp only
  rw [inside, List.cons_append]
  split <;> simp_all

/-- An opening that is read stands there, whatever the place of its name is. -/
private theorem opens_of_read {placed : Opening} (goesOn : cursor.rest ≠ [])
    (found : read extended cursor = .ok (placed, after)) :
    opens extended placed cursor after := by
  obtain ⟨char, text, split⟩ := List.exists_cons_of_ne_nil goesOn
  refine ⟨_, ⟨char, by rw [Cursor.peek?, split]; rfl, rfl⟩, _, rfl, ?_⟩
  rw [← Cursor.advance]
  unfold read at found
  dsimp only at found
  split at found
  · contradiction
  · contradiction
  · contradiction
  · contradiction
  · next inside =>
    obtain ⟨name, span, rule, rfl, rfl⟩ := readName_eq_ok_iff.mp found
    exact .inl ⟨_, signs_drop inside, by rwa [String.toList_ofList]⟩
  · next other otherToo inside =>
    obtain ⟨name, span, rule, rfl, rfl⟩ := readName_eq_ok_iff.mp found
    have taking : (named name).IsTaking 0 := isTaking_named name
    obtain ⟨first, rest, tail⟩ := List.exists_cons_of_ne_nil (taking.ne_nil rule)
    refine .inr ⟨_, signs_drop inside, ⟨first, by rw [Cursor.peek?]; exact tail ▸ rfl, ?_⟩,
      by rwa [String.toList_ofList]⟩
    rw [Cursor.rest_drop, inside] at tail
    refine ⟨?_, ?_⟩
    · rintro rfl
      exact other rest tail
    · rintro rfl
      exact otherToo rest tail
  · next inside =>
    have question : (cursor.advance extended).peek? = some '?' := by
      rw [Cursor.peek?, inside]; rfl
    obtain ⟨flags, areFlags, ⟨rfl, rule⟩ | ⟨rfl, notEmpty, rule⟩⟩ :=
      (readFlagged_eq_ok_iff question).mp found
    · exact ⟨areFlags, rule⟩
    · exact ⟨⟨areFlags, notEmpty⟩, rule⟩
  · next other =>
    cases found
    refine ⟨fun question => ?_, rfl⟩
    obtain ⟨behind, inside⟩ := List.head?_eq_some_iff.mp question
    exact other behind inside

/-- The place of a name makes no difference to where an opening stands. -/
private theorem opens_unplaced (opening : Opening) :
    opens extended opening.unplaced = opens extended opening := by
  unfold unplaced
  split <;> rfl

private theorem exists_read_of_name {name : String} {span : Span}
    (rule : opens extended (capture (some (name, span))) cursor after) :
    ∃ placed, read extended cursor = .ok (placed, after) ∧
      placed.unplaced = unplaced (capture (some (name, span))) := by
  obtain ⟨_, ⟨_, _, rfl⟩, _, rfl, rule⟩ := rule
  rw [← Cursor.advance] at rule
  have build (length : Nat)
      (rule : named name.toList ((cursor.advance extended).drop length) after)
      (reads : read extended cursor = readName ((cursor.advance extended).drop length)) :
      ∃ placed, read extended cursor = .ok (placed, after) ∧
        placed.unplaced = unplaced (capture (some (name, span))) := by
    refine ⟨_, reads.trans (readName_eq_ok_iff.mpr ⟨_, _, rule, rfl, rfl⟩), ?_⟩
    rw [String.ofList_toList]
    rfl
  rcases rule with ⟨_, starts, rule⟩ | ⟨_, starts, ⟨first, found, different⟩, rule⟩
  · obtain rfl := eq_drop_of_signs starts
    refine build 3 rule ?_
    unfold read
    dsimp only
    rw [starts.1]
    rfl
  · obtain rfl := eq_drop_of_signs starts
    refine build 2 rule ?_
    obtain ⟨rest, tail⟩ := List.head?_eq_some_iff.mp found
    unfold read
    dsimp only
    rw [starts.1, tail]
    dsimp only [List.cons_append, List.nil_append]
    split <;> grind

private theorem read_of_unnamed (rule : opens extended (capture none) cursor after) :
    read extended cursor = .ok (capture none, after) := by
  obtain ⟨_, ⟨_, _, rfl⟩, _, rfl, noQuestion, rfl⟩ := rule
  rw [← Cursor.advance] at noQuestion ⊢
  unfold read
  dsimp only
  split <;> simp_all [Cursor.peek?]

private theorem read_of_plain {flags : List Char}
    (rule : opens extended (plain flags) cursor after) :
    read extended cursor = .ok (plain flags, after) := by
  obtain ⟨_, ⟨_, _, rfl⟩, _, rfl, areFlags, starts⟩ := rule
  rw [← Cursor.advance] at starts
  have question : (cursor.advance extended).peek? = some '?' := by
    rw [Cursor.peek?, starts.1]; rfl
  rw [read_of_areFlags areFlags (.inl rfl) (by simpa using starts.1)]
  exact (readFlagged_eq_ok_iff question).mpr ⟨flags, areFlags, .inl ⟨rfl, starts⟩⟩

private theorem read_of_directive {flags : List Char}
    (rule : opens extended (directive flags) cursor after) :
    read extended cursor = .ok (directive flags, after) := by
  obtain ⟨_, ⟨_, _, rfl⟩, _, rfl, ⟨areFlags, notEmpty⟩, starts⟩ := rule
  rw [← Cursor.advance] at starts
  have question : (cursor.advance extended).peek? = some '?' := by
    rw [Cursor.peek?, starts.1]; rfl
  rw [read_of_areFlags areFlags (.inr rfl) (by simpa using starts.1)]
  exact (readFlagged_eq_ok_iff question).mpr ⟨flags, areFlags, .inr ⟨rfl, notEmpty, starts⟩⟩

theorem read_eq_ok_iff {opening : Opening} (goesOn : cursor.rest ≠ []) :
    (∃ placed, read extended cursor = .ok (placed, after) ∧ placed.unplaced = opening.unplaced) ↔
      opens extended opening cursor after := by
  constructor
  · rintro ⟨placed, found, same⟩
    rw [← opens_unplaced, ← same, opens_unplaced]
    exact opens_of_read goesOn found
  · intro rule
    cases opening with
    | capture name =>
      rcases name with _ | ⟨name, span⟩
      · exact ⟨_, read_of_unnamed rule, rfl⟩
      · exact exists_read_of_name rule
    | plain flags => exact ⟨_, read_of_plain rule, rfl⟩
    | directive flags => exact ⟨_, read_of_directive rule, rfl⟩

end TextTemplate.Opening
