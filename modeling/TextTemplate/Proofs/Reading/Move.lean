import TextTemplate.Proofs.Reading.BracketStep
import TextTemplate.Proofs.Reading.Count
import TextTemplate.Proofs.Reading.Opening

/-!
# Moves of the reading

A sign is a move: what it does to the state of the reading, apart from places, and the rule by which
it stands in a text. -/

namespace TextTemplate

open Rule

/-- What a sign does to the state of the reading. -/
inductive Move
  | opening (opening : Opening)
  | closing
  | bar
  | repetition (count : Count) (marked : Bool)
  | atom (sign : Sign)
  | brackets (negated : Bool) (members : List Member)
  | inside (form : Bracket.Progress)

namespace Reading

def openPlain (kind : GroupKind) (flags : Flags) (reading : Reading) : Reading :=
  reading.openGroup kind flags ⟨0, []⟩ ⟨0, []⟩

def stepped (form : Bracket.Progress) (reading : Reading) : Reading :=
  let reading := { reading with brackets := form.brackets, late := reading.late <|> form.late }
  match form.closed with
  | none => reading
  | some member => reading.add ⟨some (.set member.set), member.span.start, member.spine⟩ none

/-- The state behind an opening parenthesis; there is none if a name has been used before. -/
def opened? (reading : Reading) : Opening → Option Reading
  | .capture none => some (reading.openPlain .numbered reading.flags)
  | .capture (some (name, _)) =>
    if (reading.names.lookup name).isSome then none
    else
      let named := { reading with names := (name, default) :: reading.names }
      some (named.openPlain (.named name) reading.flags)
  | .plain flags => some (reading.openPlain .plain (reading.flags.apply flags))
  | .directive flags =>
    some { reading.add ⟨none, 0, []⟩ none with flags := reading.flags.apply flags }

/-- The state behind a closing parenthesis; there is none if no group is open. -/
def closed? (reading : Reading) : Option Reading :=
  match reading.groups with
  | [] => none
  | group :: groups =>
    let item : Item := ⟨some (.group group.kind (reading.level.content 0).expr), 0, []⟩
    some { reading with flags := group.flags, level := group.around.add item, groups := groups }

/-- The state behind a repetition; there is none if nothing can be repeated. -/
def repeated? (count : Count) (marked : Bool) (reading : Reading) : Option Reading :=
  match reading.level.items with
  | ⟨some expr, _, _⟩ :: items =>
    let repeated := .rep count.least count.more (marked != reading.flags.lazyFirst) expr
    some { reading with level := { reading.level with items := ⟨some repeated, 0, []⟩ :: items } }
  | _ => none

end Reading

namespace Move

/-- The state behind a sign, apart from places, if the sign may stand there. -/
def effect? (reading : Reading) : Move → Option Reading
  | opening started => reading.opened? started
  | closing => reading.closed?
  | bar => some { reading with level := reading.level.nextBranch 0 0 }
  | repetition count marked => reading.repeated? count marked
  | atom sign =>
    let (expr, late) := Atom.toExpr reading.flags ⟨sign, default⟩
    some (reading.add ⟨some expr, 0, []⟩ late)
  | brackets negated members => some { reading with brackets := [Bracket.opened negated members] }
  | inside form => some (reading.stepped form)

/-- The characters that do not start an atom outside brackets. -/
def special : List Char := ['(', ')', '|', '[', '*', '+', '?', '\x7b']

def outside (flags : Flags) : Move → Rule
  | opening started => before (· = '(') (started.opens flags.extended)
  | closing => sign ')'
  | bar => sign '|'
  | repetition count marked =>
    before (· ∈ ['*', '+', '?', '\x7b']) (Count.repetition flags.extended count marked)
  | atom sign =>
    either (before (· ∉ special) (Atom.atom flags.extended Atom.ofChar sign))
      (Atom.beforeBrace flags.extended sign)
  | brackets negated members => before (· = '[') (Bracket.opens flags.extended negated members)
  | inside _ => fun _ _ => False

/-- Whether a sign outside brackets starts with the character. -/
def StartsWith (char : Char) : Move → Prop
  | opening _ => char = '('
  | closing => char = ')'
  | bar => char = '|'
  | repetition _ _ => char ∈ ['*', '+', '?', '\x7b']
  | atom _ => char ∉ special
  | brackets _ _ => char = '['
  | inside _ => False

theorem startsWith_of_outside {flags : Flags} {move : Move} {cursor after : Cursor} {char : Char}
    (peek : cursor.peek? = some char) (rule : move.outside flags cursor after) :
    move.StartsWith char := by
  have known {test : Char → Prop} (found : ∃ other, cursor.peek? = some other ∧ test other) :
      test char := by
    obtain ⟨other, same, holds⟩ := found
    cases peek.symm.trans same
    exact holds
  cases move with
  | opening => exact known rule.1
  | closing => exact Option.some.inj (peek.symm.trans rule.1)
  | bar => exact Option.some.inj (peek.symm.trans rule.1)
  | repetition => exact known rule.1
  | atom =>
    rcases rule with ⟨other, _⟩ | ⟨_, _, ⟨backslash, _⟩, _⟩
    · exact known other
    · cases peek.symm.trans backslash
      simp [StartsWith, special]
  | brackets => exact known rule.1
  | inside => exact rule.elim

def rule (reading : Reading) (move : Move) : Rule :=
  match reading.brackets.map (·.unplaced), move with
  | [], _ => move.outside reading.flags
  | bracket :: outer, inside form =>
    either (bracket.closes reading.flags outer form) (bracket.goesOnInside reading.flags outer form)
  | _ :: _, _ => fun _ _ => False

end Move

/-! ## Reading a sign -/

/-- What an atom means depends on what the atom says only. -/
theorem Atom.toExpr_unplaced (flags : Flags) (sign : Sign) (span : Span) :
    (toExpr flags ⟨sign, span⟩).1 = (toExpr flags ⟨sign, default⟩).1 ∧
      Fault.unplaced (toExpr flags ⟨sign, span⟩).2 =
        Fault.unplaced (toExpr flags ⟨sign, default⟩).2 := by
  cases sign with
  | char char fixed =>
    refine ⟨rfl, ?_⟩
    simp only [toExpr, byteFault?]
    split <;> rfl
  | dot =>
    refine ⟨rfl, ?_⟩
    simp only [toExpr]
    split <;> rfl
  | «class» kind negated =>
    refine ⟨rfl, ?_⟩
    simp only [toExpr, ofClass]
    split <;> rfl
  | property query negated =>
    simp only [toExpr, ofProperty]
    split
    · exact ⟨rfl, rfl⟩
    · split <;> exact ⟨rfl, rfl⟩
  | _ => exact ⟨rfl, rfl⟩

namespace Reading

/-- A sign is read if it makes a move by its rule. -/
def Moves (reading form : Reading) : Rule := fun cursor after =>
  ∃ move : Move, move.rule reading cursor after ∧ (move.effect? reading).map unplaced = some form

variable {reading form : Reading} {cursor after : Cursor}

theorem readOpening_eq_ok_iff (goesOn : cursor.rest ≠ []) :
    (∃ next, reading.readOpening cursor = .ok (next, after) ∧ next.unplaced = form) ↔
      ∃ opening : Opening, opening.opens reading.flags.extended cursor after ∧
        (reading.opened? opening).map unplaced = some form := by
  simp only [readOpening, bind_eq_ok_iff, Prod.exists]
  constructor
  · rintro ⟨next, ⟨opening, place, found, read⟩, rfl⟩
    have rule := (Opening.read_eq_ok_iff goesOn).mp ⟨opening, found, rfl⟩
    split at read
    · cases read
      exact ⟨_, rule, rfl⟩
    · next name span =>
      split at read
      · contradiction
      · next unused =>
        cases read
        exact ⟨_, rule, by simp only [opened?, unused]; rfl⟩
    · cases read
      exact ⟨_, rule, rfl⟩
    · cases read
      exact ⟨_, rule, rfl⟩
  · rintro ⟨opening, rule, applied⟩
    obtain ⟨placed, found, same⟩ := (Opening.read_eq_ok_iff goesOn).mpr rule
    cases placed with
    | capture named =>
      rcases named with _ | ⟨name, span⟩
      · obtain rfl := Opening.eq_of_unplaced_eq same (by simp)
        exact ⟨_, ⟨_, _, found, rfl⟩, Option.some.inj applied⟩
      · obtain ⟨other, rfl⟩ := Opening.eq_of_unplaced_eq_named same
        cases unused : reading.names.lookup name with
        | none =>
          simp only [opened?, unused, Option.isSome_none] at applied
          refine ⟨openGroup (.named name) reading.flags cursor after
            { reading with names := (name, span) :: reading.names }, ⟨_, _, found, ?_⟩,
            Option.some.inj applied⟩
          simp only [unused]
          rfl
        | some first => simp [opened?, unused] at applied
    | plain flags =>
      obtain rfl := Opening.eq_of_unplaced_eq same (by simp)
      exact ⟨_, ⟨_, _, found, rfl⟩, Option.some.inj applied⟩
    | directive flags =>
      obtain rfl := Opening.eq_of_unplaced_eq same (by simp)
      exact ⟨_, ⟨_, _, found, rfl⟩, Option.some.inj applied⟩

theorem closeGroup_eq_ok_iff :
    (∃ next, reading.closeGroup cursor = .ok (next, after) ∧ next.unplaced = form) ↔
      after = cursor.next ∧ reading.closed?.map unplaced = some form := by
  have content : (reading.level.content cursor.offset).expr = (reading.level.content 0).expr :=
    (Level.content_expr ..).trans (Level.content_expr ..).symm
  unfold closeGroup closed?
  cases reading.groups with
  | nil => simp
  | cons group groups =>
    dsimp only
    rw [exists_ok_iff, and_comm, Option.map_some, Option.some.injEq, content]
    exact and_congr_right' eq_comm

theorem readRepetition_eq_ok_iff (goesOn : cursor.rest ≠ []) :
    (∃ next, reading.readRepetition cursor = .ok (next, after) ∧ next.unplaced = form) ↔
      ∃ count marked, Count.repetition reading.flags.extended count marked cursor after ∧
        (reading.repeated? count marked).map unplaced = some form := by
  unfold readRepetition repeated?
  rcases reading.level.items with _ | ⟨⟨_ | expr, start, spine⟩, items⟩
  · simp
  · simp
  · simp only [bind_eq_ok_iff, Prod.exists]
    constructor
    · rintro ⟨next, ⟨count, marked, place, found, read⟩, rfl⟩
      cases read
      exact ⟨count, marked, (Count.read_eq_ok_iff goesOn).mp found, rfl⟩
    · rintro ⟨count, marked, rule, applied⟩
      exact ⟨_, ⟨count, marked, after, (Count.read_eq_ok_iff goesOn).mpr rule, rfl⟩,
        Option.some.inj applied⟩

theorem readAtom_eq_ok_iff :
    (∃ next, reading.readAtom cursor = .ok (next, after) ∧ next.unplaced = form) ↔
      ∃ sign, (Atom.atom reading.flags.extended Atom.ofChar sign cursor after ∨
          Atom.beforeBrace reading.flags.extended sign cursor after) ∧
        ((Move.atom sign).effect? reading).map unplaced = some form := by
  have same (sign : Sign) (span : Span) (start : Nat) :
      (reading.add ⟨some (Atom.toExpr reading.flags ⟨sign, span⟩).1, start, []⟩
          (Atom.toExpr reading.flags ⟨sign, span⟩).2).unplaced =
        (reading.add ⟨some (Atom.toExpr reading.flags ⟨sign, default⟩).1, 0, []⟩
          (Atom.toExpr reading.flags ⟨sign, default⟩).2).unplaced := by
    obtain ⟨expr, late⟩ := Atom.toExpr_unplaced reading.flags sign span
    rw [unplaced_add, unplaced_add, expr, late]
    rfl
  simp only [readAtom, bind_eq_ok_iff, Prod.exists, ← Atom.read_eq_ok_iff]
  constructor
  · rintro ⟨next, ⟨⟨sign, span⟩, place, found, read⟩, rfl⟩
    cases read
    exact ⟨sign, ⟨span, found⟩, congrArg some (same ..).symm⟩
  · rintro ⟨sign, ⟨span, found⟩, applied⟩
    exact ⟨_, ⟨⟨sign, span⟩, after, found, rfl⟩, (same ..).trans (Option.some.inj applied)⟩

theorem openBrackets_eq_ok_iff :
    (∃ next, reading.openBrackets cursor = .ok (next, after) ∧ next.unplaced = form) ↔
      ∃ negated members, Bracket.opens reading.flags.extended negated members cursor after ∧
        unplaced { reading with brackets := [Bracket.opened negated members] } = form := by
  have same {placed bracket : Bracket} (isOpened : placed.unplaced = bracket) :
      unplaced { reading with brackets := [placed] } =
        unplaced { reading with brackets := [bracket] } := by
    subst isOpened
    simp [unplaced]
  simp only [openBrackets, bind_eq_ok_iff, Prod.exists, ← Bracket.readOpening_eq_ok_iff]
  constructor
  · rintro ⟨next, ⟨placed, place, found, read⟩, rfl⟩
    cases read
    obtain ⟨negated, members, isOpened⟩ := Bracket.exists_opened found
    exact ⟨negated, members, ⟨placed, found, isOpened⟩, (same isOpened).symm⟩
  · rintro ⟨negated, members, ⟨placed, found, isOpened⟩, rfl⟩
    exact ⟨_, ⟨placed, after, found, rfl⟩, same isOpened⟩

/-- What a step inside brackets does to the state does not depend on places. -/
theorem unplaced_stepped (form : Bracket.Progress) (reading : Reading) :
    (reading.stepped form).unplaced = (reading.unplaced.stepped form.unplaced).unplaced := by
  obtain ⟨brackets, closed, late⟩ := form
  cases closed with
  | none => simp [stepped, Bracket.Progress.unplaced, unplaced, Function.comp_def]
  | some member =>
    simp [stepped, Bracket.Progress.unplaced, unplaced, add, Level.add, Level.unplaced,
      Item.unplaced, Member.unplaced, Function.comp_def]

theorem readInBrackets_eq_ok_iff {bracket : Bracket} {outer : List Bracket} :
    (∃ next, reading.readInBrackets bracket outer cursor = .ok (next, after) ∧
        next.unplaced = form) ↔
      ∃ progress, either
          (bracket.unplaced.closes reading.flags (outer.map (·.unplaced)) progress)
          (bracket.unplaced.goesOnInside reading.flags (outer.map (·.unplaced)) progress)
          cursor after ∧
        (reading.stepped progress).unplaced = form := by
  have same (progress : Bracket.Progress) :
      (reading.stepped progress.unplaced).unplaced = (reading.stepped progress).unplaced := by
    rw [unplaced_stepped, Bracket.Progress.unplaced_unplaced, ← unplaced_stepped]
  simp only [either, ← Bracket.step_eq_ok_iff, readInBrackets, bind_eq_ok_iff, Prod.exists]
  constructor
  · rintro ⟨next, ⟨progress, place, found, read⟩, rfl⟩
    have reached : next = reading.stepped progress ∧ after = place := by
      unfold stepped
      cases closed : progress.closed <;> rw [closed] at read <;> cases read <;> exact ⟨rfl, rfl⟩
    obtain ⟨rfl, rfl⟩ := reached
    exact ⟨progress.unplaced, ⟨progress, found, rfl⟩, same progress⟩
  · rintro ⟨_, ⟨progress, found, rfl⟩, rfl⟩
    refine ⟨reading.stepped progress, ⟨progress, after, found, ?_⟩, (same progress).symm⟩
    unfold stepped
    cases progress.closed <;> rfl

private theorem unplaced_nextBranch (bar start : Nat) :
    unplaced { reading with level := reading.level.nextBranch bar start } =
      unplaced { reading with level := reading.level.nextBranch 0 0 } := by
  simp only [unplaced]
  rw [Level.unplaced_nextBranch, ← Level.unplaced_nextBranch]

private theorem readSign_inside_iff {bracket : Bracket} {outer : List Bracket}
    (found : reading.brackets = bracket :: outer) (goesOn : cursor.rest ≠ []) :
    (∃ next, reading.readSign cursor = .ok (next, after) ∧ next.unplaced = form) ↔
      reading.Moves form cursor after := by
  obtain ⟨char, text, split⟩ := List.exists_cons_of_ne_nil goesOn
  have same : reading.readSign cursor = reading.readInBrackets bracket outer cursor := by
    unfold readSign
    rw [found, split]
  rw [same, readInBrackets_eq_ok_iff]
  simp only [Moves, Move.rule, found, List.map_cons]
  constructor
  · rintro ⟨progress, rule, reached⟩
    exact ⟨.inside progress, rule, congrArg some reached⟩
  · rintro ⟨move, rule, reached⟩
    cases move with
    | inside progress => exact ⟨progress, rule, Option.some.inj reached⟩
    | _ => exact rule.elim

section Outside

variable {char : Char} {text : List Char} (out : reading.brackets = [])

include out

/-- Outside brackets, the next character tells which family of moves can be made. -/
private theorem moves_iff_of_startsWith {Index : Type} {family : Index → Move}
    (peek : cursor.peek? = some char)
    (only : ∀ move : Move, move.StartsWith char → ∃ index, family index = move) :
    reading.Moves form cursor after ↔
      ∃ index, (family index).outside reading.flags cursor after ∧
        ((family index).effect? reading).map unplaced = some form := by
  simp only [Moves, Move.rule, out, List.map_nil]
  constructor
  · rintro ⟨move, rule, reached⟩
    obtain ⟨index, rfl⟩ := only move (Move.startsWith_of_outside peek rule)
    exact ⟨index, rule, reached⟩
  · rintro ⟨index, rule, reached⟩
    exact ⟨_, rule, reached⟩

private theorem readSign_opening_iff (split : cursor.rest = '(' :: text) :
    (∃ next, reading.readSign cursor = .ok (next, after) ∧ next.unplaced = form) ↔
      reading.Moves form cursor after := by
  have peek : cursor.peek? = some '(' := by rw [Cursor.peek?, split]; rfl
  have same : reading.readSign cursor = reading.readOpening cursor := by
    simp only [readSign, out, split]
  have only (move : Move) : move.StartsWith '(' → ∃ opening, Move.opening opening = move := by
    cases move <;> simp [Move.StartsWith, Move.special]
  rw [same, readOpening_eq_ok_iff (Cursor.ne_nil_of_peek? peek), moves_iff_of_startsWith out peek only]
  exact exists_congr fun _ => and_congr_left' (before_iff peek (by rfl)).symm

private theorem readSign_closing_iff (split : cursor.rest = ')' :: text) :
    (∃ next, reading.readSign cursor = .ok (next, after) ∧ next.unplaced = form) ↔
      reading.Moves form cursor after := by
  have peek : cursor.peek? = some ')' := by rw [Cursor.peek?, split]; rfl
  have same : reading.readSign cursor = reading.closeGroup cursor := by
    simp only [readSign, out, split]
  have only (move : Move) : move.StartsWith ')' → ∃ _ : Unit, Move.closing = move := by
    cases move <;> simp [Move.StartsWith, Move.special]
  rw [same, closeGroup_eq_ok_iff, moves_iff_of_startsWith out peek only, exists_const]
  exact and_congr_left' (and_iff_right peek).symm

private theorem readSign_bar_iff (split : cursor.rest = '|' :: text) :
    (∃ next, reading.readSign cursor = .ok (next, after) ∧ next.unplaced = form) ↔
      reading.Moves form cursor after := by
  have peek : cursor.peek? = some '|' := by rw [Cursor.peek?, split]; rfl
  have same : reading.readSign cursor = .ok ({ reading with
      level := reading.level.nextBranch cursor.offset cursor.next.offset }, cursor.next) := by
    simp only [readSign, out, split]
  have only (move : Move) : move.StartsWith '|' → ∃ _ : Unit, Move.bar = move := by
    cases move <;> simp [Move.StartsWith, Move.special]
  rw [same, exists_ok_iff, unplaced_nextBranch, moves_iff_of_startsWith out peek only, exists_const,
    and_comm]
  exact and_congr (and_iff_right peek).symm (eq_comm.trans Option.some_inj.symm)

private theorem readSign_brackets_iff (split : cursor.rest = '[' :: text) :
    (∃ next, reading.readSign cursor = .ok (next, after) ∧ next.unplaced = form) ↔
      reading.Moves form cursor after := by
  have peek : cursor.peek? = some '[' := by rw [Cursor.peek?, split]; rfl
  have same : reading.readSign cursor = reading.openBrackets cursor := by
    simp only [readSign, out, split]
  have only (move : Move) : move.StartsWith '[' →
      ∃ opened : Bool × List Member, Move.brackets opened.1 opened.2 = move := by
    cases move <;> simp [Move.StartsWith, Move.special]
  rw [same, openBrackets_eq_ok_iff, moves_iff_of_startsWith out peek only, Prod.exists]
  exact exists_congr fun _ => exists_congr fun _ =>
    and_congr (before_iff peek (by rfl)).symm Option.some_inj.symm

private theorem readSign_repetition_iff (split : cursor.rest = char :: text)
    (sign : char ∈ ['*', '+', '?', '\x7b'])
    (same : reading.readSign cursor = reading.readRepetition cursor) :
    (∃ next, reading.readSign cursor = .ok (next, after) ∧ next.unplaced = form) ↔
      reading.Moves form cursor after := by
  have peek : cursor.peek? = some char := by rw [Cursor.peek?, split]; rfl
  have only (move : Move) : move.StartsWith char →
      ∃ repeated : Count × Bool, Move.repetition repeated.1 repeated.2 = move := by
    cases move <;> simp_all [Move.StartsWith, Move.special] <;> grind
  rw [same, readRepetition_eq_ok_iff (Cursor.ne_nil_of_peek? peek),
    moves_iff_of_startsWith out peek only, Prod.exists]
  exact exists_congr fun _ => exists_congr fun _ => and_congr_left' (before_iff peek sign).symm

private theorem readSign_atom_iff (split : cursor.rest = char :: text)
    (plain : char ∉ Move.special) :
    (∃ next, reading.readSign cursor = .ok (next, after) ∧ next.unplaced = form) ↔
      reading.Moves form cursor after := by
  have peek : cursor.peek? = some char := by rw [Cursor.peek?, split]; rfl
  have same : reading.readSign cursor = reading.readAtom cursor := by
    unfold readSign
    rw [out, split]
    split <;> simp_all [Move.special]
  have only (move : Move) : move.StartsWith char → ∃ sign, Move.atom sign = move := by
    cases move <;> simp_all [Move.StartsWith, Move.special]
  rw [same, readAtom_eq_ok_iff, moves_iff_of_startsWith out peek only]
  exact exists_congr fun _ => and_congr_left' (or_congr_left (before_iff peek plain).symm)

end Outside

/-- Reading a sign makes a move, and every move can be read. -/
theorem readSign_eq_ok_iff (goesOn : cursor.rest ≠ []) :
    (∃ next, reading.readSign cursor = .ok (next, after) ∧ next.unplaced = form) ↔
      reading.Moves form cursor after := by
  obtain ⟨char, text, split⟩ := List.exists_cons_of_ne_nil goesOn
  cases out : reading.brackets with
  | cons bracket outer => exact readSign_inside_iff out goesOn
  | nil =>
    by_cases special : char ∈ Move.special
    · simp only [Move.special, List.mem_cons, List.not_mem_nil, or_false] at special
      rcases special with rfl | rfl | rfl | rfl | rfl | rfl | rfl | rfl
      · exact readSign_opening_iff out split
      · exact readSign_closing_iff out split
      · exact readSign_bar_iff out split
      · exact readSign_brackets_iff out split
      all_goals
        exact readSign_repetition_iff out split (by decide) (by simp only [readSign, out, split])
    · exact readSign_atom_iff out split special

end Reading

end TextTemplate
