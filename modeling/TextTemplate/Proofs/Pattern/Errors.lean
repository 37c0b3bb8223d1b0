import TextTemplate.Proofs.Pattern.Compilation

/-!
# Which error is reported

Several things can be wrong with a template and its validators at once. A repeated name of a
placeholder comes before everything else, and of several repetitions the first one in the template
counts. If the names are distinct, the first placeholder whose validator cannot be compiled is
reported. Nothing else matters: neither validators of other names nor default values. -/

namespace TextTemplate

/-- The fragment that is registered for a name has no validator, for the reason given. -/
def FailsToCompile (fragment? : String → Option String) (name : String) (error : CompileError) :
    Prop :=
  ∃ fragment, fragment? name = some fragment ∧
    Expr.compile (validatorSource fragment.toList) = .error error

/-- The error to be reported for placeholders, whose names are given in template order, and for the
fragments that are registered. If a placeholder has the name of an earlier one, the first such
placeholder is reported; else the first one whose fragment fails is. -/
inductive PatternError.IsDue (names : List String) (fragment? : String → Option String) :
    PatternError → Prop
  | repeated {before : List String} {name : String} {later : List String}
      (split : names = before ++ name :: later) (seen : name ∈ before) (first : before.Nodup) :
      IsDue names fragment? (.duplicatePlaceholder name)
  | failed {before : List String} {name : String} {later : List String} {error : CompileError}
      (distinct : names.Nodup) (split : names = before ++ name :: later)
      (fails : FailsToCompile fragment? name error)
      (first : ∀ other ∈ before, ∀ otherError, ¬ FailsToCompile fragment? other otherError) :
      IsDue names fragment? (.validator name error)

/-! ## Repeated names -/

/-- A place of a name in a list is the start of the list, or it lies behind the start. -/
private theorem exists_split_cons_iff {head name : String} {names : List String}
    {holds : List String → Prop} :
    (∃ before later, head :: names = before ++ name :: later ∧ holds before) ↔
      (name = head ∧ holds []) ∨
        ∃ before later, names = before ++ name :: later ∧ holds (head :: before) := by
  constructor
  · rintro ⟨before, later, split, here⟩
    cases before with
    | nil =>
      obtain ⟨rfl, rfl⟩ := List.cons.inj split
      exact .inl ⟨rfl, here⟩
    | cons first before =>
      obtain ⟨rfl, rfl⟩ := List.cons.inj split
      exact .inr ⟨before, later, rfl, here⟩
  · rintro (⟨rfl, here⟩ | ⟨before, later, rfl, here⟩)
    · exact ⟨[], names, rfl, here⟩
    · exact ⟨head :: before, later, rfl, here⟩

/-- The name that is found to be repeated is the first one that has come before. -/
theorem firstRepeatedFrom?_eq_some_iff {seen names : List String} {name : String} :
    firstRepeatedFrom? seen names = some name ↔
      ∃ before later, names = before ++ name :: later ∧ (name ∈ seen ∨ name ∈ before) ∧
        before.Nodup ∧ ∀ other ∈ before, other ∉ seen := by
  induction names generalizing seen with
  | nil => simp [firstRepeatedFrom?]
  | cons head names ih =>
    refine Iff.trans ?_ exists_split_cons_iff.symm
    by_cases repeated : head ∈ seen
    · rw [firstRepeatedFrom?, if_pos (by simpa using repeated)]
      constructor
      · rintro same
        cases same
        exact .inl ⟨rfl, .inl repeated, .nil, by simp⟩
      · rintro (⟨rfl, _⟩ | ⟨_, _, _, _, _, fresh⟩)
        · rfl
        · exact absurd repeated (fresh _ (List.mem_cons_self ..))
    · have notHere : ¬ (name = head ∧ (name ∈ seen ∨ name ∈ []) ∧
          ([] : List String).Nodup ∧ ∀ other ∈ [], other ∉ seen) := by
        rintro ⟨rfl, among, _⟩
        exact among.elim repeated List.not_mem_nil
      rw [firstRepeatedFrom?, if_neg (by simpa using repeated), ih, or_iff_right notHere]
      refine exists_congr fun before => exists_congr fun later => and_congr_right fun _ => ?_
      simp only [List.mem_cons, List.nodup_cons, forall_eq_or_imp, not_or]
      grind

theorem firstRepeated?_eq_some_iff {names : List String} {name : String} :
    firstRepeated? names = some name ↔
      ∃ before later, names = before ++ name :: later ∧ name ∈ before ∧ before.Nodup := by
  simp [firstRepeated?, firstRepeatedFrom?_eq_some_iff]

/-! ## Validators -/

theorem failsToCompile_iff {validators : Bindings} {name fragment : String}
    (given : validators.find? name = some fragment) (error : CompileError) :
    FailsToCompile validators.find? name error ↔
      Expr.compile (validatorSource fragment.toList) = .error error := by
  simp [FailsToCompile, given]

def validatorError? (validators : Bindings) (name : String) : Option PatternError :=
  match validators.find? name with
  | none => none
  | some fragment =>
    match Expr.compile (validatorSource fragment.toList) with
    | .error error => some (.validator name error)
    | .ok _ => none

theorem validatorError?_eq_some_iff {validators : Bindings} {name : String} {error : PatternError} :
    validatorError? validators name = some error ↔
      ∃ cause, FailsToCompile validators.find? name cause ∧ error = .validator name cause := by
  unfold validatorError? FailsToCompile
  cases validators.find? name with
  | none => simp
  | some fragment =>
    cases made : Expr.compile (validatorSource fragment.toList) with
    | error cause => simp [made, eq_comm]
    | ok expr => simp [made]

theorem validatorError?_eq_none_iff {validators : Bindings} {name : String} :
    validatorError? validators name = none ↔
      ∀ cause, ¬ FailsToCompile validators.find? name cause := by
  constructor
  · intro nothing cause fails
    have found := validatorError?_eq_some_iff.mpr ⟨cause, fails, rfl⟩
    rw [nothing] at found
    contradiction
  · intro sound
    refine Option.eq_none_iff_forall_ne_some.mpr fun error found => ?_
    obtain ⟨cause, fails, _⟩ := validatorError?_eq_some_iff.mp found
    exact sound cause fails

/-- Validators are refused with the error for the first name that has one. -/
theorem compileValidators_eq_error_iff_findSome? {validators : Bindings} {names : List String}
    {error : PatternError} :
    compileValidators validators names = .error error ↔
      names.findSome? (validatorError? validators) = some error := by
  induction names with
  | nil => simp [compileValidators]
  | cons name names ih =>
    rw [List.findSome?_cons, compileValidators, validatorError?]
    cases validators.find? name with
    | none => exact ih
    | some fragment =>
      cases made : Expr.compile (validatorSource fragment.toList) with
      | error cause => simp [made]
      | ok expr =>
        simp only [made, ← ih]
        cases compileValidators validators names <;> simp [pure, Except.pure, bind, Except.bind]

/-- The error found in some validators is that of the first one that fails. -/
theorem compileValidators_eq_error_iff {validators : Bindings} {names : List String}
    {error : PatternError} :
    compileValidators validators names = .error error ↔
      ∃ before name later cause, names = before ++ name :: later ∧
        FailsToCompile validators.find? name cause ∧
        (∀ other ∈ before, ∀ otherCause, ¬ FailsToCompile validators.find? other otherCause) ∧
        error = .validator name cause := by
  simp only [compileValidators_eq_error_iff_findSome?, List.findSome?_eq_some_iff,
    validatorError?_eq_some_iff, validatorError?_eq_none_iff]
  constructor
  · rintro ⟨before, name, later, split, ⟨cause, fails, same⟩, first⟩
    exact ⟨before, name, later, cause, split, fails, first, same⟩
  · rintro ⟨before, name, later, cause, split, fails, first, same⟩
    exact ⟨before, name, later, split, ⟨cause, fails, same⟩, first⟩

/-! ## The error that is due -/

namespace PatternError

variable {names : List String} {fragment? other? : String → Option String} {error : PatternError}

/-- Only the fragments of placeholders matter. -/
theorem IsDue.congr (same : ∀ name ∈ names, fragment? name = other? name)
    (due : error.IsDue names fragment?) : error.IsDue names other? := by
  have fails : ∀ name ∈ names, ∀ cause,
      FailsToCompile fragment? name cause ↔ FailsToCompile other? name cause := by
    intro name listed cause
    simp only [FailsToCompile, same name listed]
  cases due with
  | repeated split seen first => exact .repeated split seen first
  | failed distinct split broken first =>
    apply IsDue.failed distinct split
    · exact (fails _ (by simp [split]) _).mp broken
    · intro other member otherCause
      exact mt (fails other (by simp [split, member]) otherCause).mpr (first other member otherCause)

theorem isDue_iff_of_nodup (distinct : names.Nodup) :
    error.IsDue names fragment? ↔
      ∃ before name later cause, names = before ++ name :: later ∧
        FailsToCompile fragment? name cause ∧
        (∀ other ∈ before, ∀ otherCause, ¬ FailsToCompile fragment? other otherCause) ∧
        error = .validator name cause := by
  constructor
  · intro due
    cases due with
    | repeated split seen first =>
      rw [split] at distinct
      exact absurd (List.mem_cons_self ..) (List.disjoint_of_nodup_append distinct seen)
    | failed _ split fails first => exact ⟨_, _, _, _, split, fails, first, rfl⟩
  · rintro ⟨before, name, later, cause, split, fails, first, rfl⟩
    exact .failed distinct split fails first

theorem isDue_iff_of_firstRepeated? {name : String} (found : firstRepeated? names = some name) :
    error.IsDue names fragment? ↔ error = .duplicatePlaceholder name := by
  constructor
  · intro due
    cases due with
    | repeated split seen first =>
      have same := firstRepeated?_eq_some_iff.mpr ⟨_, _, split, seen, first⟩
      rw [found] at same
      cases same
      rfl
    | failed distinct =>
      rw [firstRepeated?_eq_none_iff.mpr distinct] at found
      contradiction
  · rintro rfl
    obtain ⟨before, later, split, seen, first⟩ := firstRepeated?_eq_some_iff.mp found
    exact .repeated split seen first

/-- The first of some names of which something holds. -/
private theorem exists_first (holds : String → Prop) (given : ∃ name ∈ names, holds name) :
    ∃ before first later, names = before ++ first :: later ∧ holds first ∧
      ∀ other ∈ before, ¬ holds other := by
  classical
  obtain ⟨name, listed, here⟩ := given
  have found : (names.find? (holds ·)).isSome = true :=
    List.find?_isSome.mpr ⟨name, listed, decide_eq_true here⟩
  obtain ⟨first, same⟩ := Option.isSome_iff_exists.mp found
  obtain ⟨atFirst, before, later, split, earlier⟩ := List.find?_eq_some_iff_append.mp same
  exact ⟨before, first, later, split, of_decide_eq_true atFirst, by simpa using earlier⟩

/-- An error is due if a name is repeated or the fragment of a placeholder fails. -/
theorem exists_isDue_iff :
    (∃ error : PatternError, error.IsDue names fragment?) ↔
      ¬ names.Nodup ∨ ∃ name ∈ names, ∃ cause, FailsToCompile fragment? name cause := by
  by_cases distinct : names.Nodup
  · simp only [isDue_iff_of_nodup distinct, distinct, not_true, false_or]
    constructor
    · rintro ⟨_, before, name, later, cause, rfl, fails, _, _⟩
      exact ⟨name, by simp, cause, fails⟩
    · intro fails
      obtain ⟨before, first, later, split, ⟨cause, broken⟩, earlier⟩ := exists_first _ fails
      exact ⟨_, before, first, later, cause, split, broken, by simpa using earlier, rfl⟩
  · obtain ⟨name, found⟩ :=
      Option.ne_none_iff_exists'.mp (mt firstRepeated?_eq_none_iff.mp distinct)
    simp [isDue_iff_of_firstRepeated? found, distinct]

end PatternError

/-! ## Patterns -/

namespace Compiled

variable {template : String} {validators defaults : Bindings} {error : PatternError}

/-- A template that is not too heavy is refused with the error that is due, and with no other. -/
theorem ofTemplate_eq_error_iff
    (light : (placeholderNames (tokenize template)).Nodup →
      (templateExpr defaults.contains (tokenize template)).isTooHeavy = false) :
    ofTemplate template validators defaults = .error error ↔
      error.IsDue (placeholderNames (tokenize template)) validators.find? := by
  by_cases distinct : (placeholderNames (tokenize template)).Nodup
  · rw [ofTemplate_eq template validators defaults distinct (light distinct), map_eq_error_iff,
      compileValidators_eq_error_iff, PatternError.isDue_iff_of_nodup distinct]
  · obtain ⟨name, found⟩ :=
      Option.ne_none_iff_exists'.mp (mt firstRepeated?_eq_none_iff.mp distinct)
    have refused : ofTemplate template validators defaults =
        .error (.duplicatePlaceholder name) := by
      simp only [ofTemplate, found]
      rfl
    rw [refused, Except.error.injEq, PatternError.isDue_iff_of_firstRepeated? found, eq_comm]

end Compiled

end TextTemplate
