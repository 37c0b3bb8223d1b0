import TextTemplate.CommandLine.Subjects
import TextTemplate.Proofs.Text.Lines

/-!
# Paths and files

A slash behind a path, with steps behind it that stay where they are, makes no difference to its
components, so that many paths stand for the standard input besides the hyphen itself. None of them
leads to a file, since only a directory can be gone on from: the file that cannot be named to hold the
subjects is the one whose path is a hyphen, and no other. -/

namespace TextTemplate.CommandLine

open Text

namespace Path

/-! ## Steps -/

theorem steps_ne_nil (path : String) : steps path ≠ [] := by
  simp [steps, cut_ne_nil]

/-- A slash divides the steps before it from those behind it. -/
theorem steps_append (path rest : String) :
    steps (path ++ "/" ++ rest) = steps path ++ steps rest := by
  have text : (path ++ "/" ++ rest).toList = path.toList ++ '/' :: rest.toList := by simp
  rw [steps, text, cut_append, List.map_append]
  rfl

/-- A path of one step is that step. -/
theorem eq_of_steps_eq_singleton {path step : String} (one : steps path = [step]) : path = step := by
  by_cases marked : '/' ∈ path.toList
  · obtain ⟨first, rest, split⟩ := List.append_of_mem marked
    have lengths := congrArg List.length one
    rw [steps, split, cut_append, List.length_map, List.length_append] at lengths
    have first' : 0 < (cut '/' first).length := List.length_pos_iff.mpr (cut_ne_nil first)
    have rest' : 0 < (cut '/' rest).length := List.length_pos_iff.mpr (cut_ne_nil rest)
    rw [List.length_singleton] at lengths
    omega
  · rw [steps, cut_of_not_mem marked] at one
    simpa using one

/-- A path has a component for its start if it goes on behind a first step that stays. -/
theorem start?_ne_none {path first : String} {others : List String}
    (split : steps path = first :: others) (stays : staysAt first = true) (more : others ≠ []) :
    start? path ≠ none := by
  unfold start?
  by_cases slash : path.toList.head? = some '/'
  · simp [slash]
  · rw [if_neg slash]
    by_cases dot : first = "."
    · simp [split, dot]
    · -- Only an empty path has an empty first step without starting with a slash.
      have empty : first = "" := by simpa [staysAt, dot] using stays
      cases text : path.toList with
      | nil =>
        have one : steps path = [""] := by rw [steps, text]; rfl
        rw [one, List.cons.injEq] at split
        exact absurd split.2.symm more
      | cons char rest =>
        have unmarked : char ≠ '/' := by simpa [text] using slash
        obtain ⟨part, parts, behind⟩ : ∃ part parts, cut '/' rest = part :: parts :=
          List.exists_cons_of_ne_nil (cut_ne_nil rest)
        rw [steps, text, cut_cons_of_ne unmarked behind, List.map_cons, List.cons.injEq] at split
        simp [empty] at split

/-- A path whose first step moves has no component for its start. -/
theorem start?_eq_none {path first : String} {others : List String}
    (split : steps path = first :: others) (moves : staysAt first = false) :
    start? path = none := by
  have distinct : first ≠ "" ∧ first ≠ "." := by simpa [staysAt] using moves
  have slash : path.toList.head? ≠ some '/' := by
    intro slash
    obtain ⟨rest, text⟩ := List.head?_eq_some_iff.mp slash
    rw [steps, text, cut, if_pos rfl, List.map_cons, List.cons.injEq] at split
    exact distinct.1 split.1.symm
  simp [start?, slash, split, distinct.2]

/-! ## Components -/

theorem ofStep?_eq_none_iff {step : String} :
    Component.ofStep? step = none ↔ staysAt step = true := by
  unfold Component.ofStep?
  split
  · next stays => simp [stays]
  · next moves => split <;> simp [moves]

theorem ofStep?_eq_name_iff {step text : String} :
    Component.ofStep? step = some (.name text) ↔
      step = text ∧ staysAt text = false ∧ text ≠ ".." := by
  unfold Component.ofStep?
  constructor
  · intro named
    split at named
    · contradiction
    · next moves =>
      split at named
      · cases named
      · next down =>
        cases named
        exact ⟨rfl, (Bool.not_eq_true _).mp moves, down⟩
  · rintro ⟨rfl, moves, down⟩
    rw [if_neg (by simp [moves]), if_neg down]

/-- What is behind a slash adds its steps, whatever the path before the slash is. -/
theorem components_append {path : String} (filled : path ≠ "") (rest : String) :
    components (path ++ "/" ++ rest) =
      components path ++ (steps rest).filterMap Component.ofStep? := by
  obtain ⟨char, chars, text⟩ := List.exists_cons_of_ne_nil
    (fun empty => filled (String.toList_eq_nil_iff.mp empty) : path.toList ≠ [])
  obtain ⟨first, others, split⟩ := List.exists_cons_of_ne_nil (steps_ne_nil path)
  have start : start? (path ++ "/" ++ rest) = start? path := by
    simp [start?, steps_append, text, split]
  rw [components, components, start, steps_append, List.filterMap_append, List.append_assoc]

/-- Repeated slashes, slashes at the end and dots behind a slash do not count. -/
theorem components_append_of_stays {path rest : String} (filled : path ≠ "")
    (stays : ∀ step ∈ steps rest, staysAt step = true) :
    components (path ++ "/" ++ rest) = components path := by
  have nothing : (steps rest).filterMap Component.ofStep? = [] :=
    List.filterMap_eq_nil_iff.mpr fun step member => ofStep?_eq_none_iff.mpr (stays step member)
  rw [components_append filled, nothing, List.append_nil]

example : components "-/./" = components "-" ∧ components "./-" ≠ components "-" := by decide

/-- The paths with the components of a name are those that start with it as a step and have only
steps behind it that stay where they are. -/
theorem components_eq_name_iff {path name : String} (moves : staysAt name = false)
    (down : name ≠ "..") :
    components path = [.name name] ↔
      ∃ others, steps path = name :: others ∧ ∀ step ∈ others, staysAt step = true := by
  have named : Component.ofStep? name = some (.name name) :=
    ofStep?_eq_name_iff.mpr ⟨rfl, moves, down⟩
  constructor
  · intro same
    have bare : start? path = none := by
      cases start : start? path with
      | none => rfl
      | some component =>
        rw [components, start, Option.toList_some, List.singleton_append, List.cons.injEq] at same
        rw [same.1] at start
        unfold start? at start
        split at start
        · cases start
        · split at start <;> cases start
    rw [components, bare, Option.toList_none, List.nil_append, List.filterMap_eq_cons_iff] at same
    obtain ⟨before, step, others, split, stayBefore, component, stay⟩ := same
    obtain ⟨rfl, -⟩ := ofStep?_eq_name_iff.mp component
    cases before with
    | nil =>
      exact ⟨others, split, fun step member =>
        ofStep?_eq_none_iff.mp (List.filterMap_eq_nil_iff.mp stay step member)⟩
    | cons first before =>
      have stays := ofStep?_eq_none_iff.mp (stayBefore first List.mem_cons_self)
      exact absurd bare (start?_ne_none split stays (by simp))
  · rintro ⟨others, split, stay⟩
    have nothing : others.filterMap Component.ofStep? = [] :=
      List.filterMap_eq_nil_iff.mpr fun step member => ofStep?_eq_none_iff.mpr (stay step member)
    rw [components, start?_eq_none split moves, split, List.filterMap_cons, named, nothing]
    rfl

theorem components_eq_hyphen_iff {path : String} :
    components path = components "-" ↔
      ∃ others, steps path = "-" :: others ∧ ∀ step ∈ others, staysAt step = true := by
  have hyphen : components "-" = [.name "-"] := by decide
  rw [hyphen, components_eq_name_iff (by decide) (by decide)]

end Path

/-- The subjects come from the standard input if none is given as an argument, and if there is no file
or its path is a hyphen, perhaps with steps behind it that stay where they are. -/
theorem Invocation.source_eq_standardInput_iff {invocation : Invocation} :
    invocation.source = .standardInput ↔ invocation.subjects = [] ∧
      ∀ path ∈ invocation.file, ∃ others,
        Path.steps path = "-" :: others ∧ ∀ step ∈ others, Path.staysAt step = true := by
  unfold Invocation.source
  cases invocation.subjects with
  | cons => simp
  | nil =>
    cases invocation.file with
    | none => simp
    | some path => simp [Path.components_eq_hyphen_iff]

namespace FileTree

variable {tree : FileTree}

/-- Steps that stay where they are lead to the directory that they start from. -/
theorem walk_of_stays (names : List String) {steps : List String}
    (stay : ∀ step ∈ steps, Path.staysAt step = true) :
    tree.walk names steps = .ok (.directory names) := by
  induction steps with
  | nil => rfl
  | cons step steps ih =>
    rw [List.forall_mem_cons] at stay
    rw [walk, if_pos stay.1, ih stay.2]

/-- Of the paths that stand for the standard input, the hyphen alone may lead to a file. -/
theorem eq_hyphen_of_read_eq_ok {path : String} {bytes : ByteArray}
    (same : Path.components path = Path.components "-") (reads : tree.read path = .ok bytes) :
    path = "-" := by
  obtain ⟨others, split, stay⟩ := Path.components_eq_hyphen_iff.mp same
  cases others with
  | nil => exact Path.eq_of_steps_eq_singleton split
  | cons other others =>
    exfalso
    have walked : ∀ file, tree.walk [] ("-" :: other :: others) ≠ .ok (.file file) := by
      intro file
      rw [walk, if_neg (by decide), if_neg (by decide)]
      split
      · rw [walk_of_stays _ stay]
        simp
      · split <;> simp
    unfold read at reads
    split at reads
    · cases reads
    · rw [split] at reads
      split at reads
      · next file found => exact walked file found
      · cases reads
      · cases reads

end FileTree

end TextTemplate.CommandLine
