import TextTemplate.Proofs.Reading.Closing
import TextTemplate.Template.Source

/-!
# The text of a validator

The text of a validator is a fragment in a group between two anchors. It is read as the fragment's
expression in this group, if the fragment is one by itself and does not end with a comment that takes
in the closing parenthesis. The other way round, a fragment whose validator can be read is an
expression by itself, unless it closes the group around it. -/

namespace TextTemplate

/-- The expression of a validator whose fragment has the given expression. -/
def validatorExpr (expr : Expr) : Expr :=
  .seq (.seq (.look .textStart) (.group .plain expr)) (.look .textEnd)

namespace Reading

/-- The group around a fragment. -/
def validatorGroup : OpenGroup :=
  ⟨default, .plain, {}, ⟨0, [], 0, [⟨some (.look .textStart), 0, []⟩]⟩⟩

/-- The state behind the text of a validator, when `form` is the state behind the fragment. -/
def validated (form : Reading) : Reading :=
  unplaced { form with
    flags := {}
    level := ⟨0, [], 0, [⟨some (.look .textEnd), 0, []⟩,
      ⟨some (.group .plain (form.level.content 0).expr), 0, []⟩,
      ⟨some (.look .textStart), 0, []⟩]⟩ }

theorem reaches_fragment (fragment : List Char) :
    Reaches initial ⟨0, validatorSource fragment⟩ (initial.within [validatorGroup])
      ⟨4, fragment ++ [')', '$']⟩ := by
  have anchor : initial.Moves (unplaced (initial.add ⟨some (.look .textStart), 0, []⟩ none))
      ⟨0, validatorSource fragment⟩ ⟨1, "(?:".toList ++ (fragment ++ [')', '$'])⟩ :=
    (readSign_eq_ok_iff (by simp [validatorSource])).mp ⟨_, rfl, rfl⟩
  have opening : Moves (unplaced (initial.add ⟨some (.look .textStart), 0, []⟩ none))
      (initial.within [validatorGroup]) ⟨1, "(?:".toList ++ (fragment ++ [')', '$'])⟩
      ⟨4, fragment ++ [')', '$']⟩ :=
    (readSign_eq_ok_iff (by simp)).mp ⟨_, rfl, rfl⟩
  exact .move anchor (.move opening (.stay ..))

theorem exists_reaches_validated {form : Reading} {place : Cursor} (noGroup : form.groups = [])
    (out : form.brackets = []) (found : (place.skip form.flags.extended).rest = [')', '$']) :
    ∃ after, Reaches (form.within [validatorGroup]) place form.validated after ∧ after.rest = [] := by
  obtain ⟨flags, level, groups, brackets, names, late⟩ := form
  subst noGroup out
  obtain ⟨offset, isStand⟩ : ∃ offset, place.skip flags.extended = ⟨offset, [')', '$']⟩ :=
    ⟨_, by rw [← found]⟩
  let content : Item := ⟨some (.group .plain (level.content 0).expr), 0, []⟩
  let closed : Reading :=
    ⟨{}, ⟨0, [], 0, [content, ⟨some (.look .textStart), 0, []⟩]⟩, [], [], names, late⟩
  have closing : Moves (within [validatorGroup] ⟨flags, level, [], [], names, late⟩) closed.unplaced
      ⟨offset, [')', '$']⟩ ⟨offset + 1, ['$']⟩ := ⟨.closing, ⟨rfl, rfl⟩, rfl⟩
  have anchor : closed.unplaced.Moves (validated ⟨flags, level, [], [], names, late⟩)
      ⟨offset + 1, ['$']⟩ ⟨offset + 2, []⟩ := by
    rw [moves_unplaced]
    refine (readSign_eq_ok_iff (by simp)).mp ⟨_, rfl, ?_⟩
    cases late <;> rfl
  exact ⟨_, .move (isStand ▸ closing) (.move anchor (.stay ..)), rfl⟩

theorem IsWhole.validated {form : Reading} (whole : form.IsWhole) : form.validated.IsWhole :=
  isWhole_unplaced.mpr ⟨whole.brackets, whole.groups, whole.late⟩

theorem content_validated (form : Reading) :
    (form.validated.level.content 0).expr = validatorExpr (form.level.content 0).expr := rfl

/-- Readings of a text that come to its end come to the same state. -/
theorem Reaches.unique {text : List Char} {first second : Reading} {place other : Cursor}
    (reachesFirst : Reaches initial ⟨0, text⟩ first place) (firstDone : first.IsDone place)
    (reachesSecond : Reaches initial ⟨0, text⟩ second other) (secondDone : second.IsDone other) :
    first = second := by
  obtain ⟨placed, rfl, run⟩ := reachesFirst.exists_runFrom unplaced_initial
  obtain ⟨placedToo, rfl, runToo⟩ := reachesSecond.exists_runFrom unplaced_initial
  have ends : placed.runFrom place = .ok placed := runFrom_of_isDone firstDone
  have endsToo : placedToo.runFrom other = .ok placedToo := runFrom_of_isDone secondDone
  rw [ends] at run
  rw [endsToo, run] at runToo
  cases runToo
  rfl

end Reading

open Reading

variable {fragment : List Char} {form : Reading}

private theorem isClosing_behind : IsClosing [')', '$'] := by simp [IsClosing]

private theorem framed : [validatorGroup].map (·.unplaced) = [validatorGroup] := rfl

/-- A fragment that stops before the closing parenthesis has a validator. -/
theorem Reading.StopsBefore.spells (stops : initial.StopsBefore ⟨0, fragment⟩ form)
    (whole : form.IsWhole) :
    Spells (validatorSource fragment) (validatorExpr (form.level.content 0).expr) := by
  obtain ⟨place, reaches, found⟩ :=
    stops _ ⟨4, fragment ++ [')', '$']⟩ _ isClosing_behind rfl framed
  obtain ⟨after, closes, nothing⟩ := exists_reaches_validated whole.groups whole.brackets found
  refine ⟨_, after, (reaches_fragment fragment).trans (reaches.trans closes), ?_,
    whole.validated, content_validated form⟩
  rw [IsDone, Cursor.rest_skip, nothing, List.drop_nil]

/-- A fragment with a comment that takes in the closing parenthesis has no validator. -/
theorem Reading.RunsOver.not_spells (runs : initial.RunsOver ⟨0, fragment⟩ form) (expr : Expr) :
    ¬ Spells (validatorSource fragment) expr := by
  rintro ⟨other, after, reachesOther, otherDone, whole, _⟩
  obtain ⟨place, reaches, done⟩ :=
    runs _ ⟨4, fragment ++ [')', '$']⟩ _ isClosing_behind (by decide) rfl framed
  have same := ((reaches_fragment fragment).trans reaches).unique done reachesOther otherDone
  have open' : (form.within [validatorGroup]).groups = [] := same ▸ whole.groups
  exact List.cons_ne_nil _ _ (List.append_eq_nil_iff.mp open').2

/-! ## Parentheses that close nothing -/

/-- The first fault of a text is a closing parenthesis outside of all groups. -/
def IsUnopened (text : List Char) : Prop := ∃ span, Expr.read text = .error ⟨.groupUnopened, span⟩

theorem Reading.Reaches.isUnopened {text : List Char} {place : Cursor}
    (reaches : Reaches initial ⟨0, text⟩ form place) (noGroup : form.groups = [])
    (out : form.brackets = []) (found : (place.skip form.flags.extended).peek? = some ')') :
    IsUnopened text := by
  obtain ⟨placed, rfl, run⟩ := reaches.exists_runFrom unplaced_initial
  have fails := runFrom_eq_groupUnopened (List.map_eq_nil_iff.mp noGroup)
    (List.map_eq_nil_iff.mp out) found
  have start : Reading.run 0 0 text .initial = .error ⟨.groupUnopened, _⟩ := run.trans fails
  refine ⟨(place.skip placed.flags.extended).sign, ?_⟩
  rw [Expr.read, start]
  rfl

/-- Behind a fragment that stops before it a closing parenthesis closes nothing. -/
theorem Reading.StopsBefore.isUnopened (stops : initial.StopsBefore ⟨0, fragment⟩ form)
    (whole : form.IsWhole) : IsUnopened (fragment ++ [')']) := by
  obtain ⟨place, reaches, found⟩ :=
    stops [')'] ⟨0, fragment ++ [')']⟩ [] (by simp [IsClosing]) rfl rfl
  rw [within_nil, within_nil] at reaches
  refine reaches.isUnopened whole.groups whole.brackets ?_
  rw [Cursor.peek?, found]
  rfl

/-- A fragment with a comment takes in a closing parenthesis behind it as well. -/
theorem Reading.RunsOver.not_isUnopened (runs : initial.RunsOver ⟨0, fragment⟩ form)
    (whole : form.IsWhole) : ¬ IsUnopened (fragment ++ [')']) := by
  rintro ⟨span, unopened⟩
  obtain ⟨place, reaches, done⟩ :=
    runs [')'] ⟨0, fragment ++ [')']⟩ [] (by simp [IsClosing]) (by decide) rfl rfl
  rw [within_nil, within_nil] at reaches
  have spells : Spells (fragment ++ [')']) _ := ⟨form, place, reaches, done, whole, rfl⟩
  rcases spells.read with read | ⟨_, deep⟩
  · cases read.symm.trans unopened
  · cases deep.symm.trans unopened

/-- A text that ends with a dollar sign goes on behind a parenthesis. -/
private theorem two_le_length {text taken rest : List Char}
    (split : text ++ [')', '$'] = taken ++ rest) (starts : rest.head? = some ')') :
    2 ≤ rest.length := by
  obtain ⟨more, rfl⟩ := List.head?_eq_some_iff.mp starts
  cases more with
  | nil =>
    have last := congrArg List.getLast? split
    simp at last
  | cons => simp

/-- A fragment with a validator spells an expression by itself, or it closes the group around it. -/
theorem exists_spells_or_isUnopened {expr : Expr} (spells : Spells (validatorSource fragment) expr) :
    (∃ own, Spells fragment own) ∨ IsUnopened fragment := by
  obtain ⟨last, after, reaches, done, whole, _⟩ := spells
  obtain ⟨start, isStart, run⟩ := (reaches_fragment fragment).exists_runFrom unplaced_initial
  obtain ⟨final, rfl, runToo⟩ := reaches.exists_runFrom unplaced_initial
  have ends : final.runFrom after = .ok final := runFrom_of_isDone done
  rw [ends, run] at runToo
  obtain ⟨stop, inGroup, _⟩ := exists_reaches runToo
  rw [isStart] at inGroup
  obtain ⟨inner, place, outerReaches, rest, noGroup, out, found⟩ :=
    inGroup.exists_closing framed (by simp) whole.groups
  have late : inner.late = none := rest.late_eq_none whole.late
  obtain ⟨taken, split, _⟩ := outerReaches.leadsTo.trans (place.leadsTo_skip inner.flags.extended)
  have extend : Cursor.Extends [')', '$'] ⟨0, fragment⟩ ⟨4, fragment ++ [')', '$']⟩ := rfl
  obtain ⟨stand, innerReaches, extendStand⟩ := outerReaches.back isClosing_behind extend out found
    (two_le_length split found)
  by_cases atEnd : (stand.skip inner.flags.extended).rest = []
  · exact .inl ⟨_, inner, stand, innerReaches, atEnd, ⟨out, noGroup, late⟩, rfl⟩
  · exact .inr (innerReaches.isUnopened noGroup out ((extendStand.peek? atEnd).symm.trans found))

end TextTemplate
