import Mathlib.Logic.Relation
import TextTemplate.Proofs.Reading.Cursor

/-!
# Rules of reading

A rule says from where to where a text may be read. A rule is local if it does the same in front of
any closing text, up to what is skipped at its end. Rules are put together from rules for single
signs, and what is put together from local rules is local. -/

namespace TextTemplate

/-- From where to where a text may be read. -/
abbrev Rule := Cursor → Cursor → Prop

namespace Rule

def sign (char : Char) : Rule := fun cursor after => cursor.peek? = some char ∧ after = cursor.next

/-- White space and comments, if the text is extended. -/
def blank (extended : Bool) : Rule := fun cursor after => after = cursor.skip extended

/-- Nothing, if the next character passes a test. -/
def stays (test : Option Char → Prop) : Rule := fun cursor after =>
  test cursor.peek? ∧ after = cursor

def signs (text : List Char) : Rule := fun cursor after =>
  cursor.rest = text ++ after.rest ∧ after.offset = cursor.offset + text.length

/-- As many characters of a kind as there are, and then what another rule says. -/
def taking (extended : Bool) (keep : Char → Bool) (taken : List Char) (rule : Rule) : Rule :=
  fun cursor after => (cursor.takeWhile extended keep).1 = taken ∧
    rule (cursor.takeWhile extended keep).2 after

def either (first second : Rule) : Rule := fun cursor after =>
  first cursor after ∨ second cursor after

def oneOf {Index : Type} (rules : Index → Rule) : Rule := fun cursor after =>
  ∃ index, rules index cursor after

def provided (condition : Prop) (rule : Rule) : Rule := fun cursor after =>
  condition ∧ rule cursor after

/-- A rule that only holds at some places. -/
def here (test : Cursor → Prop) (rule : Rule) : Rule := fun cursor after =>
  test cursor ∧ rule cursor after

def before (test : Char → Prop) : Rule → Rule :=
  here fun cursor => ∃ char, cursor.peek? = some char ∧ test char

/-- Nothing, at some places before the end of the text. -/
def goesOn (test : Cursor → Prop) : Rule := fun cursor after =>
  cursor.rest ≠ [] ∧ test cursor ∧ after = cursor

/-- A test of places gives the same answer if a closing text comes behind the text. -/
def Agrees (test : Cursor → Prop) : Prop :=
  ∀ behind inner outer, IsClosing behind → inner.rest ≠ [] → inner.Extends behind outer →
    (test outer ↔ test inner)

/-- A rule does the same in a text and in front of a closing text behind it: in one direction up to
the end of the text, and in the other one as long as at least `margin` characters of the text are
left. -/
structure IsLocal (margin : Nat) (rule : Rule) : Prop where
  leadsTo {cursor after : Cursor} (read : rule cursor after) : cursor.LeadsTo after
  ahead {cursor after : Cursor} (read : rule cursor after) : cursor.Ahead after rule
  back {behind : List Char} {inner outer place : Cursor} (closing : IsClosing behind)
    (extend : inner.Extends behind outer) (read : rule outer place)
    (enough : behind.length + margin ≤ place.rest.length) :
    ∃ after, rule inner after ∧ after.Extends behind place

/-- A local rule that always takes some character. -/
structure IsTaking (margin : Nat) (rule : Rule) : Prop extends IsLocal margin rule where
  shorter {cursor after : Cursor} (read : rule cursor after) :
    after.rest.length < cursor.rest.length

variable {margin : Nat} {first second rule : Rule}

theorem IsTaking.ne_nil (isTaking : rule.IsTaking margin) {cursor after : Cursor}
    (read : rule cursor after) : cursor.rest ≠ [] :=
  List.length_pos_iff.mp (Nat.zero_lt_of_lt (isTaking.shorter read))

/-! ## Single signs -/

theorem isTaking_sign (char : Char) : (sign char).IsTaking margin where
  shorter := by
    rintro cursor _ ⟨found, rfl⟩
    exact Cursor.length_next_lt (Cursor.ne_nil_of_peek? found)
  leadsTo := by
    rintro cursor _ ⟨_, rfl⟩
    exact Cursor.leadsTo_next _
  ahead := by
    rintro cursor _ ⟨found, rfl⟩
    have goesOn := Cursor.ne_nil_of_peek? found
    exact .inl fun behind outer _ extend =>
      ⟨outer.next, ⟨(extend.peek? goesOn).trans found, rfl⟩, extend.next goesOn⟩
  back := by
    rintro behind inner outer _ _ extend ⟨found, rfl⟩ enough
    have shorter := Cursor.length_next_lt (Cursor.ne_nil_of_peek? found)
    have goesOn := extend.ne_nil (.inr (by omega))
    exact ⟨inner.next, ⟨(extend.peek? goesOn).symm.trans found, rfl⟩, extend.next goesOn⟩

theorem isLocal_blank (extended : Bool) : (blank extended).IsLocal margin where
  leadsTo := by
    rintro cursor _ rfl
    exact Cursor.leadsTo_skip ..
  ahead := by
    rintro cursor _ rfl
    exact Cursor.ahead_skip ..
  back := by
    rintro behind inner outer _ _ extend rfl enough
    exact ⟨_, rfl, Cursor.skip_back extended extend (Nat.le_trans (Nat.le_add_right ..) enough)⟩

theorem comp_blank_iff {extended : Bool} {cursor after : Cursor} :
    Relation.Comp (blank extended) rule cursor after ↔ rule (cursor.skip extended) after :=
  ⟨fun ⟨_, same, read⟩ => by obtain rfl := same; exact read, fun read => ⟨_, rfl, read⟩⟩

/-- A test that a closing parenthesis and the end of the text both pass or fail. -/
theorem isLocal_stays {test : Option Char → Prop} (same : test none ↔ test (some ')')) :
    (stays test).IsLocal margin := by
  have agree {behind : List Char} {inner outer : Cursor} (closing : IsClosing behind)
      (extend : inner.Extends behind outer) : test outer.peek? ↔ test inner.peek? := by
    by_cases goesOn : inner.rest = []
    · simp only [Cursor.peek?, extend.rest_eq, goesOn, List.nil_append, List.head?_nil]
      cases behind with
      | nil => rfl
      | cons char behind => rw [closing char rfl]; exact same.symm
    · rw [extend.peek? goesOn]
  constructor
  · rintro cursor _ ⟨_, rfl⟩
    exact .refl _
  · rintro cursor _ ⟨passes, rfl⟩
    exact .inl fun behind outer closing extend =>
      ⟨outer, ⟨(agree closing extend).mpr passes, rfl⟩, extend⟩
  · rintro behind inner outer _ closing extend ⟨passes, rfl⟩ _
    exact ⟨inner, ⟨(agree closing extend).mp passes, rfl⟩, extend⟩

theorem before_iff {test : Char → Prop} {char : Char} {cursor after : Cursor}
    (peek : cursor.peek? = some char) (passes : test char) :
    before test rule cursor after ↔ rule cursor after :=
  and_iff_right ⟨char, peek, passes⟩

theorem agrees_before (test : Char → Prop) :
    Agrees fun cursor => ∃ char, cursor.peek? = some char ∧ test char := by
  intro behind inner outer _ some extend
  simp only [extend.peek? some]

private theorem prefix_append_iff {text behind : List Char} (closing : IsClosing behind)
    (inside : ')' ∉ text) (rest : List Char) : text <+: rest ++ behind ↔ text <+: rest := by
  refine ⟨fun starts => ?_, fun starts => starts.trans (List.prefix_append ..)⟩
  induction text generalizing rest with
  | nil => exact List.nil_prefix
  | cons char text ih =>
    rw [List.mem_cons, not_or] at inside
    cases rest with
    | nil =>
      obtain ⟨more, split⟩ := starts
      rw [List.nil_append] at split
      subst split
      exact absurd (closing char rfl).symm inside.1
    | cons first rest =>
      rw [List.cons_append, List.cons_prefix_cons] at starts
      exact List.cons_prefix_cons.mpr ⟨starts.1, ih inside.2 rest starts.2⟩

theorem agrees_prefix {text : List Char} (inside : ')' ∉ text) :
    Agrees fun cursor => text <+: cursor.rest := by
  intro behind inner outer closing _ extend
  simp only [extend.rest_eq]
  exact prefix_append_iff closing inside inner.rest

theorem Agrees.not {test : Cursor → Prop} (agrees : Agrees test) : Agrees (¬ test ·) :=
  fun behind inner outer closing some extend =>
    not_congr (agrees behind inner outer closing some extend)

/-- Where a character of the text has to be left, it makes no difference what comes behind. -/
theorem isLocal_goesOn {test : Cursor → Prop} (agrees : Agrees test) :
    (goesOn test).IsLocal (margin + 1) where
  leadsTo := by
    rintro cursor _ ⟨_, _, rfl⟩
    exact .refl _
  ahead := by
    rintro cursor _ ⟨some, passes, rfl⟩
    exact .inl fun behind outer closing extend =>
      ⟨outer, ⟨extend.outer_ne_nil some, (agrees _ _ _ closing some extend).mpr passes, rfl⟩, extend⟩
  back := by
    rintro behind inner outer _ closing extend ⟨_, passes, rfl⟩ enough
    have inside : inner.rest ≠ [] := extend.ne_nil (.inr (by omega))
    exact ⟨inner, ⟨inside, (agrees _ _ _ closing inside extend).mp passes, rfl⟩, extend⟩

/-! ## Rules put together -/

/-- What can be read ahead one after the other can be read ahead. -/
theorem ahead_comp {cursor middle after : Cursor}
    (aheadFirst : cursor.Ahead middle first) (aheadSecond : middle.Ahead after second)
    (leads : middle.LeadsTo after) : cursor.Ahead after (Relation.Comp first second) := by
  rcases aheadFirst with same | ⟨none, ends⟩
  · rcases aheadSecond with sameThen | ⟨none, ends⟩
    · refine .inl fun behind outer closing extend => ?_
      obtain ⟨outerMiddle, read, extendMiddle⟩ := same behind outer closing extend
      obtain ⟨place, readThen, extendAfter⟩ := sameThen behind outerMiddle closing extendMiddle
      exact ⟨place, ⟨outerMiddle, read, readThen⟩, extendAfter⟩
    · refine .inr ⟨none, fun behind outer closing oneLine extend => ?_⟩
      obtain ⟨outerMiddle, read, extendMiddle⟩ := same behind outer closing extend
      obtain ⟨place, readThen, nothing⟩ := ends behind outerMiddle closing oneLine extendMiddle
      exact ⟨place, ⟨outerMiddle, read, readThen⟩, nothing⟩
  · -- at the end of the text the second rule is at the end of any longer one as well
    have nothing : after.rest = [] := List.length_eq_zero_iff.mp <| by
      have length := leads.length_le
      rw [none] at length
      exact Nat.le_zero.mp length
    refine .inr ⟨nothing, fun behind outer closing oneLine extend => ?_⟩
    obtain ⟨outerMiddle, read, end'⟩ := ends behind outer closing oneLine extend
    have extendMiddle : middle.Extends [] outerMiddle := by rw [Cursor.Extends, end', none]; rfl
    rcases aheadSecond with sameThen | ⟨_, endsThen⟩
    · obtain ⟨place, readThen, extendAfter⟩ :=
        sameThen [] outerMiddle (by simp [IsClosing]) extendMiddle
      exact ⟨place, ⟨outerMiddle, read, readThen⟩, by rw [extendAfter.rest_eq, nothing]; rfl⟩
    · obtain ⟨place, readThen, stops⟩ :=
        endsThen [] outerMiddle (by simp [IsClosing]) (by simp) extendMiddle
      exact ⟨place, ⟨outerMiddle, read, readThen⟩, stops⟩

theorem IsLocal.andThen (localFirst : first.IsLocal margin) (localSecond : second.IsLocal margin) :
    IsLocal margin (Relation.Comp first second) where
  leadsTo := by
    rintro cursor after ⟨middle, read, readThen⟩
    exact (localFirst.leadsTo read).trans (localSecond.leadsTo readThen)
  ahead := by
    rintro cursor after ⟨middle, read, readThen⟩
    exact ahead_comp (localFirst.ahead read) (localSecond.ahead readThen) (localSecond.leadsTo readThen)
  back := by
    rintro behind inner outer place closing extend ⟨outerMiddle, read, readThen⟩ enough
    have length := (localSecond.leadsTo readThen).length_le
    obtain ⟨middle, innerRead, extendMiddle⟩ :=
      localFirst.back closing extend read (Nat.le_trans enough length)
    obtain ⟨after, innerReadThen, extendAfter⟩ :=
      localSecond.back closing extendMiddle readThen enough
    exact ⟨after, ⟨middle, innerRead, innerReadThen⟩, extendAfter⟩

/-- Two rules that say the same are local together. -/
theorem IsLocal.congr (isLocal : first.IsLocal margin)
    (same : ∀ cursor after, second cursor after ↔ first cursor after) : second.IsLocal margin where
  leadsTo read := isLocal.leadsTo ((same ..).mp read)
  ahead read := (isLocal.ahead ((same ..).mp read)).mono fun _ _ => (same ..).mpr
  back closing extend read enough := by
    obtain ⟨after, innerRead, extendAfter⟩ := isLocal.back closing extend ((same ..).mp read) enough
    exact ⟨after, (same ..).mpr innerRead, extendAfter⟩

theorem IsTaking.andThen (isTaking : first.IsTaking margin) (isLocal : second.IsLocal margin) :
    IsTaking margin (Relation.Comp first second) where
  toIsLocal := isTaking.toIsLocal.andThen isLocal
  shorter := by
    rintro cursor after ⟨middle, read, readThen⟩
    exact Nat.lt_of_le_of_lt (isLocal.leadsTo readThen).length_le (isTaking.shorter read)

theorem IsLocal.either (localFirst : first.IsLocal margin) (localSecond : second.IsLocal margin) :
    (either first second).IsLocal margin where
  leadsTo read := read.elim localFirst.leadsTo localSecond.leadsTo
  ahead := by
    rintro cursor after (read | read)
    · exact (localFirst.ahead read).mono fun _ _ => .inl
    · exact (localSecond.ahead read).mono fun _ _ => .inr
  back := by
    rintro behind inner outer place closing extend (read | read) enough
    · obtain ⟨after, innerRead, extendAfter⟩ := localFirst.back closing extend read enough
      exact ⟨after, .inl innerRead, extendAfter⟩
    · obtain ⟨after, innerRead, extendAfter⟩ := localSecond.back closing extend read enough
      exact ⟨after, .inr innerRead, extendAfter⟩

theorem IsTaking.either (isTaking : first.IsTaking margin) (isTakingToo : second.IsTaking margin) :
    (either first second).IsTaking margin where
  toIsLocal := isTaking.toIsLocal.either isTakingToo.toIsLocal
  shorter read := read.elim isTaking.shorter isTakingToo.shorter

theorem isLocal_oneOf {Index : Type} {rules : Index → Rule}
    (areLocal : ∀ index, (rules index).IsLocal margin) : (oneOf rules).IsLocal margin where
  leadsTo := by
    rintro cursor after ⟨index, read⟩
    exact (areLocal index).leadsTo read
  ahead := by
    rintro cursor after ⟨index, read⟩
    exact ((areLocal index).ahead read).mono fun _ _ read => ⟨index, read⟩
  back := by
    rintro behind inner outer place closing extend ⟨index, read⟩ enough
    obtain ⟨after, innerRead, extendAfter⟩ := (areLocal index).back closing extend read enough
    exact ⟨after, ⟨index, innerRead⟩, extendAfter⟩

theorem isTaking_oneOf {Index : Type} {rules : Index → Rule}
    (areTaking : ∀ index, (rules index).IsTaking margin) : (oneOf rules).IsTaking margin where
  toIsLocal := isLocal_oneOf fun index => (areTaking index).toIsLocal
  shorter := by
    rintro cursor after ⟨index, read⟩
    exact (areTaking index).shorter read

theorem isLocal_provided {condition : Prop} (isLocal : condition → rule.IsLocal margin) :
    (provided condition rule).IsLocal margin where
  leadsTo read := (isLocal read.1).leadsTo read.2
  ahead := by
    rintro cursor after ⟨given, read⟩
    exact ((isLocal given).ahead read).mono fun _ _ read => ⟨given, read⟩
  back := by
    rintro behind inner outer place closing extend ⟨given, read⟩ enough
    obtain ⟨after, innerRead, extendAfter⟩ := (isLocal given).back closing extend read enough
    exact ⟨after, ⟨given, innerRead⟩, extendAfter⟩

theorem isTaking_provided {condition : Prop} (isTaking : condition → rule.IsTaking margin) :
    (provided condition rule).IsTaking margin where
  toIsLocal := isLocal_provided fun given => (isTaking given).toIsLocal
  shorter read := (isTaking read.1).shorter read.2

theorem IsTaking.here (isTaking : rule.IsTaking margin) {test : Cursor → Prop}
    (agrees : Agrees test) : (here test rule).IsTaking margin where
  leadsTo read := isTaking.leadsTo read.2
  shorter read := isTaking.shorter read.2
  ahead := by
    rintro cursor after ⟨passes, read⟩
    have some := isTaking.ne_nil read
    rcases isTaking.ahead read with same | ⟨none, ends⟩
    · refine .inl fun behind outer closing extend => ?_
      obtain ⟨place, outerRead, extendAfter⟩ := same behind outer closing extend
      exact ⟨place, ⟨(agrees _ _ _ closing some extend).mpr passes, outerRead⟩, extendAfter⟩
    · refine .inr ⟨none, fun behind outer closing oneLine extend => ?_⟩
      obtain ⟨place, outerRead, nothing⟩ := ends behind outer closing oneLine extend
      exact ⟨place, ⟨(agrees _ _ _ closing some extend).mpr passes, outerRead⟩, nothing⟩
  back := by
    rintro behind inner outer place closing extend ⟨passes, read⟩ enough
    obtain ⟨after, innerRead, extendAfter⟩ := isTaking.back closing extend read enough
    have some := isTaking.ne_nil innerRead
    exact ⟨after, ⟨(agrees _ _ _ closing some extend).mp passes, innerRead⟩, extendAfter⟩

theorem IsTaking.before (isTaking : rule.IsTaking margin) (test : Char → Prop) :
    (before test rule).IsTaking margin :=
  isTaking.here (agrees_before test)

theorem signs_cons_iff {char : Char} {text : List Char} {cursor after : Cursor} :
    signs (char :: text) cursor after ↔ Relation.Comp (sign char) (signs text) cursor after := by
  obtain ⟨offset, rest⟩ := cursor
  constructor
  · rintro ⟨split, place⟩
    obtain rfl : rest = char :: (text ++ after.rest) := split
    exact ⟨⟨offset + 1, text ++ after.rest⟩, ⟨rfl, rfl⟩, rfl, by
      rw [place, List.length_cons]; dsimp only; omega⟩
  · rintro ⟨_, ⟨found, rfl⟩, split, place⟩
    cases rest with
    | nil => contradiction
    | cons first rest =>
      obtain rfl : first = char := Option.some.inj found
      obtain rfl : rest = text ++ after.rest := split
      refine ⟨rfl, place.trans ?_⟩
      simp only [Cursor.next, Cursor.drop, Cursor.dropFrom, List.length_cons]
      omega

theorem signs_drop {text behind : List Char} {cursor : Cursor}
    (split : cursor.rest = text ++ behind) : signs text cursor (cursor.drop text.length) := by
  obtain ⟨taken, whole, place⟩ := cursor.leadsTo_drop text.length
  rw [Cursor.rest_drop, split, List.drop_left] at whole
  obtain rfl := List.append_cancel_right whole
  exact ⟨by rw [Cursor.rest_drop, split, List.drop_left], place⟩

theorem eq_drop_of_signs {text : List Char} {cursor after : Cursor}
    (read : signs text cursor after) : after = cursor.drop text.length := by
  obtain ⟨split, place⟩ := read
  obtain ⟨same, placeToo⟩ := signs_drop split
  cases after
  cases drop : cursor.drop text.length
  rw [drop, split] at same
  rw [drop] at placeToo
  exact Cursor.mk.injEq .. ▸ ⟨place.trans placeToo.symm, List.append_cancel_left same⟩

theorem signs_append_iff {text more : List Char} {cursor after : Cursor} :
    signs (text ++ more) cursor after ↔ Relation.Comp (signs text) (signs more) cursor after := by
  constructor
  · rintro ⟨split, place⟩
    have first := signs_drop (split.trans (List.append_assoc ..))
    refine ⟨_, first, List.append_cancel_left (first.1.symm.trans (split.trans ?_)), ?_⟩
    · rw [List.append_assoc]
    · rw [place, first.2, List.length_append, Nat.add_assoc]
  · rintro ⟨middle, ⟨split, place⟩, splitMore, placeMore⟩
    refine ⟨by rw [split, splitMore, List.append_assoc], ?_⟩
    rw [placeMore, place, List.length_append, Nat.add_assoc]

theorem signs_takeWhile (keep : Char → Bool) (cursor : Cursor) :
    signs (cursor.takeWhile false keep).1 cursor (cursor.takeWhile false keep).2 :=
  cursor.takeWhile_taken keep

theorem isLocal_signs (text : List Char) : (signs text).IsLocal margin := by
  induction text with
  | nil =>
    have nothing : (stays fun _ => True).IsLocal margin := isLocal_stays Iff.rfl
    refine nothing.congr fun cursor after => ?_
    constructor
    · rintro ⟨split, place⟩
      exact ⟨trivial, by cases after; cases cursor; simp_all⟩
    · rintro ⟨_, rfl⟩
      exact ⟨rfl, rfl⟩
  | cons char text ih =>
    exact ((isTaking_sign char).andThen ih).toIsLocal.congr fun _ _ => signs_cons_iff

theorem isTaking_signs {text : List Char} (some : text ≠ []) : (signs text).IsTaking margin where
  toIsLocal := isLocal_signs text
  shorter := by
    rintro cursor after ⟨split, _⟩
    rw [split, List.length_append]
    exact Nat.lt_add_of_pos_left (List.length_pos_iff.mpr some)

/-- What is taken ends inside the text if something has to come behind it. -/
theorem IsTaking.taking (isTaking : rule.IsTaking margin) (extended : Bool) (keep : Char → Bool)
    (taken : List Char) : (taking extended keep taken rule).IsTaking margin where
  shorter read :=
    Nat.lt_of_lt_of_le (isTaking.shorter read.2) (Cursor.leadsTo_takeWhile ..).length_le
  leadsTo read := (Cursor.leadsTo_takeWhile ..).trans (isTaking.leadsTo read.2)
  ahead := by
    rintro cursor after ⟨same, read⟩
    have goesOn := isTaking.ne_nil read
    have whole {behind : List Char} {outer : Cursor} (extend : cursor.Extends behind outer) :
        (outer.takeWhile extended keep).1 = (cursor.takeWhile extended keep).1 ∧
          (cursor.takeWhile extended keep).2.Extends behind (outer.takeWhile extended keep).2 :=
      extend.takeWhile extended (.inl goesOn)
    rcases isTaking.ahead read with behaves | ⟨none, ends⟩
    · refine .inl fun behind outer closing extend => ?_
      obtain ⟨sameTaken, extendMiddle⟩ := whole extend
      obtain ⟨place, outerRead, extendAfter⟩ := behaves behind _ closing extendMiddle
      exact ⟨place, ⟨sameTaken.trans same, outerRead⟩, extendAfter⟩
    · refine .inr ⟨none, fun behind outer closing oneLine extend => ?_⟩
      obtain ⟨sameTaken, extendMiddle⟩ := whole extend
      obtain ⟨place, outerRead, nothing⟩ := ends behind _ closing oneLine extendMiddle
      exact ⟨place, ⟨sameTaken.trans same, outerRead⟩, nothing⟩
  back := by
    rintro behind inner outer place closing extend ⟨same, read⟩ enough
    have longer := isTaking.shorter read
    have inside : (inner.takeWhile extended keep).2.IsInside behind
        (outer.takeWhile extended keep).2 := .inr (by omega)
    obtain ⟨sameTaken, extendMiddle⟩ := extend.takeWhile extended inside
    obtain ⟨after, innerRead, extendAfter⟩ := isTaking.back closing extendMiddle read enough
    exact ⟨after, ⟨sameTaken.symm.trans same, innerRead⟩, extendAfter⟩

end Rule

end TextTemplate
