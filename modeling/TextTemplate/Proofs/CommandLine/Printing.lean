import TextTemplate.Proofs.CommandLine.Writing

/-!
# Command lines of invocations

What a command line can ask for is proper: there is one format, one source of subjects, and every
assignment has a name. Conversely, every proper invocation is what some command line asks for. Its
options are printed by their long names with their values attached, and the template and the
subjects come behind two hyphens, so that none of the texts can be taken for something else. -/

namespace TextTemplate.CommandLine

/-- The name is not empty and has no equals sign in it; the value may be any text. -/
def Assignment.IsProper (assignment : Assignment) : Prop :=
  assignment.name ≠ "" ∧ '=' ∉ assignment.name.toList

namespace Invocation

/-- A command line may ask for the invocation: what excludes each other is not there together, the
path of a file is not empty, and the assignments have proper names. -/
structure IsProper (invocation : Invocation) : Prop where
  formats : ¬ (invocation.quiet = true ∧ invocation.json = true)
  sources : ¬ (invocation.file ≠ none ∧ invocation.subjects ≠ [])
  path : invocation.file ≠ some ""
  assignments : ∀ assignment ∈ invocation.validators ++ invocation.defaults, assignment.IsProper

def optionTexts (invocation : Invocation) : Parameter → List String
  | .json => if invocation.json then ["--json"] else []
  | .showSource => if invocation.showSource then ["--show-regex"] else []
  | .quiet => if invocation.quiet then ["--quiet"] else []
  | .noColor => if invocation.noColor then ["--no-color"] else []
  | .file => invocation.file.toList.map fun path => "--file=" ++ path
  | .validator => invocation.validators.map fun assignment => "--validator=" ++ assignment.toText
  | .default => invocation.defaults.map fun assignment => "--default=" ++ assignment.toText
  | _ => []

/-- The order in which options are printed. -/
def printedOptions : List Parameter :=
  [.json, .showSource, .quiet, .noColor, .file, .validator, .default]

/-- The command line of an invocation. -/
def toArguments (invocation : Invocation) : List String :=
  printedOptions.flatMap invocation.optionTexts ++
    "--" :: invocation.template :: invocation.subjects

end Invocation

/-! ## Assignments -/

namespace Assignment

theorem splitAtEquals?_eq_some_iff {text name value : List Char} :
    splitAtEquals? text = some (name, value) ↔ text = name ++ '=' :: value ∧ '=' ∉ name := by
  constructor
  · intro split
    unfold splitAtEquals? at split
    split at split
    · contradiction
    · next sign rest form =>
      cases split
      have whole := List.takeWhile_append_dropWhile (p := (· ≠ '=')) (l := text)
      have first : sign = '=' := by
        have filled : text.dropWhile (· ≠ '=') ≠ [] := form ▸ List.cons_ne_nil _ _
        have stops := List.head_dropWhile_not (· ≠ '=') filled
        simp only [form, List.head_cons] at stops
        simpa using stops
      rw [form, first] at whole
      exact ⟨whole.symm, fun member => by simpa using List.mem_takeWhile_imp member⟩
  · rintro ⟨rfl, unmarked⟩
    have letters : ∀ letter ∈ name, decide (letter ≠ '=') = true := by
      intro letter member
      exact decide_eq_true fun same => unmarked (same ▸ member)
    simp only [splitAtEquals?, List.takeWhile_append_of_pos letters,
      List.dropWhile_append_of_pos letters]
    simp

/-- A text spells an assignment exactly if the assignment is proper and is written as the text. -/
theorem ofText_eq_ok_iff {text : String} {assignment : Assignment} :
    ofText text = .ok assignment ↔ text = assignment.toText ∧ assignment.IsProper := by
  constructor
  · intro spelled
    unfold ofText at spelled
    split at spelled
    · contradiction
    · contradiction
    · next name value filled split =>
      cases spelled
      obtain ⟨form, unmarked⟩ := splitAtEquals?_eq_some_iff.mp split
      refine ⟨?_, ?_, by simpa using unmarked⟩
      · rw [← String.toList_inj, form]
        simp [toText]
      · intro empty
        exact filled (String.ofList_eq_empty_iff.mp empty)
  · rintro ⟨rfl, filled, unmarked⟩
    have split : splitAtEquals? assignment.toText.toList =
        some (assignment.name.toList, assignment.value.toList) :=
      splitAtEquals?_eq_some_iff.mpr ⟨by simp [toText], unmarked⟩
    have letters : assignment.name.toList ≠ [] := fun empty =>
      filled (String.toList_eq_nil_iff.mp empty)
    simp [ofText, split]

end Assignment

/-! ## Accepted command lines ask for proper invocations -/

namespace Clause

variable {clauses : List Clause} {option : Parameter}

theorem isProper_of_mem_assignments {assignment : Assignment}
    (member : assignment ∈ assignments option clauses) : assignment.IsProper := by
  obtain ⟨text, _, spelled⟩ := List.mem_filterMap.mp member
  cases form : Assignment.ofText text with
  | error error =>
    rw [form] at spelled
    cases spelled
  | ok found =>
    rw [form] at spelled
    cases spelled
    exact (Assignment.ofText_eq_ok_iff.mp form).2

theorem mem_values_iff {text : String} :
    text ∈ values option clauses ↔ value option text ∈ clauses := by
  simp [values, List.mem_filterMap, valueOf?_eq_some_iff]

/-- An option that has a value is given. -/
theorem gives_of_mem_values {text : String} (member : text ∈ values option clauses) :
    gives option clauses = true :=
  List.any_eq_true.mpr ⟨_, mem_values_iff.mp member, by simp [option?]⟩

/-- What accepted clauses ask for is proper. -/
theorem IsAccepted.isProper (accepted : IsAccepted clauses) {template : String}
    {subjects : List String} (texts : positionals clauses = template :: subjects) :
    (Invocation.ofClauses template subjects clauses).IsProper where
  formats both := accepted.peaceful .quiet .json rfl both.1 both.2
  sources := by
    rintro ⟨file, filled⟩
    obtain ⟨path, last⟩ := Option.ne_none_iff_exists'.mp file
    refine accepted.peaceful .file .subjects rfl ?_ ?_
    · exact gives_of_mem_values (List.mem_of_getLast? last)
    · rw [IsGiven, texts]
      exact filled
  path := by
    intro last
    exact accepted.sound _ (mem_values_iff.mp (List.mem_of_getLast? last)) rfl
  assignments assignment member :=
    (List.mem_append.mp member).elim isProper_of_mem_assignments isProper_of_mem_assignments

end Clause

/-! ## Printed command lines -/

namespace Invocation

def optionClauses (invocation : Invocation) : Parameter → List Clause
  | .json => if invocation.json then [.flag .json] else []
  | .showSource => if invocation.showSource then [.flag .showSource] else []
  | .quiet => if invocation.quiet then [.flag .quiet] else []
  | .noColor => if invocation.noColor then [.flag .noColor] else []
  | .file => invocation.file.toList.map (.value .file)
  | .validator => invocation.validators.map fun assignment => .value .validator assignment.toText
  | .default => invocation.defaults.map fun assignment => .value .default assignment.toText
  | _ => []

variable {invocation : Invocation} {option other : Parameter} {clause : Clause}

theorem writesAll_optionTexts (invocation : Invocation) (option : Parameter) :
    Clause.WritesAll (invocation.optionClauses option) (invocation.optionTexts option) := by
  have flag : ∀ (name : String) {option : Parameter} (given : Bool),
      Parameter.ofLongName? name = some option → option.takesValue = false →
        Clause.WritesAll (if given then [.flag option] else [])
          (if given then ["--" ++ name] else []) := by
    intro name option given named needless
    cases given
    · exact .nil
    · exact .cons (.long named needless) .nil
  cases option
  case json => exact flag "json" _ rfl rfl
  case showSource => exact flag "show-regex" _ rfl rfl
  case quiet => exact flag "quiet" _ rfl rfl
  case noColor => exact flag "no-color" _ rfl rfl
  case file =>
    have named : Parameter.ofLongName? "file" = some .file := rfl
    exact .map (fun _ => .value rfl (.long named)) _
  case validator =>
    have named : Parameter.ofLongName? "validator" = some .validator := rfl
    exact .map (fun _ => .value rfl (.long named)) _
  case default =>
    have named : Parameter.ofLongName? "default" = some .default := rfl
    exact .map (fun _ => .value rfl (.long named)) _
  all_goals exact .nil

open Clause

/-- A clause for an option is its flag, or gives it one of the texts that the invocation has. -/
theorem cases_of_mem_optionClauses (member : clause ∈ invocation.optionClauses option) :
    (clause = .flag option ∧ option ≠ .help ∧ option ≠ .version) ∨
      (option = .file ∧ ∃ path, invocation.file = some path ∧ clause = .value option path) ∨
        ((option = .validator ∨ option = .default) ∧
          ∃ assignment ∈ invocation.validators ++ invocation.defaults,
            clause = .value option assignment.toText) := by
  cases option
  case json | showSource | quiet | noColor =>
    simp only [optionClauses, List.mem_ite_nil_right, List.mem_singleton] at member
    exact .inl ⟨member.2, by decide, by decide⟩
  case file =>
    obtain ⟨path, given, rfl⟩ := List.mem_map.mp member
    exact .inr (.inl ⟨rfl, path, Option.mem_toList.mp given, rfl⟩)
  case validator =>
    obtain ⟨assignment, listed, rfl⟩ := List.mem_map.mp member
    exact .inr (.inr ⟨.inl rfl, assignment, List.mem_append_left _ listed, rfl⟩)
  case default =>
    obtain ⟨assignment, listed, rfl⟩ := List.mem_map.mp member
    exact .inr (.inr ⟨.inr rfl, assignment, List.mem_append_right _ listed, rfl⟩)
  all_goals cases member

theorem option?_of_mem_optionClauses (member : clause ∈ invocation.optionClauses option) :
    clause.option? = some option := by
  rcases cases_of_mem_optionClauses member with ⟨rfl, _⟩ | ⟨_, _, _, rfl⟩ | ⟨_, _, _, rfl⟩ <;> rfl

theorem pairwise_optionClauses (invocation : Invocation) (option : Parameter) :
    (invocation.optionClauses option).Pairwise Tolerates := by
  cases option
  case json | showSource | quiet | noColor =>
    rw [optionClauses]
    split <;> simp
  case file =>
    rw [optionClauses]
    cases invocation.file <;> simp
  case validator | default =>
    rw [optionClauses, List.pairwise_map]
    refine List.pairwise_of_forall fun _ _ other same _ => ?_
    cases same
    rfl
  all_goals exact .nil

theorem isSound_of_mem_optionClauses (proper : invocation.IsProper)
    (member : clause ∈ invocation.optionClauses option) : clause.IsSound := by
  rcases cases_of_mem_optionClauses member with
    ⟨rfl, other⟩ | ⟨rfl, path, given, rfl⟩ | ⟨assigns, assignment, listed, rfl⟩
  · exact other
  · rintro rfl
    exact proper.path given
  · have spelled := Assignment.ofText_eq_ok_iff.mpr ⟨rfl, proper.assignments assignment listed⟩
    rcases assigns with rfl | rfl <;> exact ⟨assignment, spelled⟩

/-! ### What the printed clauses give -/

def printedClauses (invocation : Invocation) : List Clause :=
  printedOptions.flatMap invocation.optionClauses

theorem writesAll_printed (invocation : Invocation) :
    WritesAll invocation.printedClauses (printedOptions.flatMap invocation.optionTexts) :=
  .flatMap (writesAll_optionTexts invocation) printedOptions

theorem positionals_printedClauses (invocation : Invocation) :
    positionals invocation.printedClauses = [] := by
  refine List.filterMap_eq_nil_iff.mpr fun clause member => ?_
  obtain ⟨option, _, member⟩ := List.mem_flatMap.mp member
  exact positional?_of_option? (option?_of_mem_optionClauses member)

theorem values_of_ne (different : other ≠ option) :
    values option (invocation.optionClauses other) = [] := by
  refine List.filterMap_eq_nil_iff.mpr fun clause member => ?_
  have given := option?_of_mem_optionClauses member
  cases clause with
  | value found text =>
    cases given
    exact if_neg different
  | fault | flag | positional => rfl

theorem gives_of_ne (different : other ≠ option) :
    gives option (invocation.optionClauses other) = false := by
  refine List.any_eq_false.mpr fun clause member => ?_
  simpa [option?_of_mem_optionClauses member] using different

theorem values_printedClauses (listed : option ∈ printedOptions) :
    values option invocation.printedClauses = values option (invocation.optionClauses option) := by
  simp only [printedOptions, List.mem_cons, List.not_mem_nil, or_false] at listed
  rcases listed with rfl | rfl | rfl | rfl | rfl | rfl | rfl <;>
    simp [printedClauses, printedOptions, values_of_ne]

theorem gives_printedClauses (listed : option ∈ printedOptions) :
    gives option invocation.printedClauses = gives option (invocation.optionClauses option) := by
  simp only [printedOptions, List.mem_cons, List.not_mem_nil, or_false] at listed
  rcases listed with rfl | rfl | rfl | rfl | rfl | rfl | rfl <;>
    simp [printedClauses, printedOptions, gives_of_ne]

theorem assignments_map_toText {assignments : List Assignment}
    (proper : ∀ assignment ∈ assignments, assignment.IsProper) (option : Parameter) :
    Clause.assignments option
      (assignments.map fun assignment => .value option assignment.toText) = assignments := by
  induction assignments with
  | nil => rfl
  | cons assignment rest ih =>
    obtain ⟨first, others⟩ := List.forall_mem_cons.mp proper
    have spelled := Assignment.ofText_eq_ok_iff.mpr ⟨rfl, first⟩
    rw [List.map_cons, ← List.singleton_append, Clause.assignments_append, ih others]
    simp [valueOf?, spelled, Except.toOption]

theorem assignments_printedClauses {listed : List Assignment} (printed : option ∈ printedOptions)
    (form : invocation.optionClauses option =
      listed.map fun assignment => .value option assignment.toText)
    (proper : ∀ assignment ∈ listed, assignment.IsProper) :
    assignments option invocation.printedClauses = listed := by
  rw [assignments, values_printedClauses printed, form]
  exact assignments_map_toText proper option

theorem gives_ite (option : Parameter) (given : Bool) :
    gives option (if given then [.flag option] else []) = given := by
  cases given <;> simp [gives, option?]

theorem gives_file_printedClauses :
    gives .file invocation.printedClauses = true ↔ invocation.file ≠ none := by
  rw [gives_printedClauses (by decide), optionClauses]
  cases invocation.file <;> simp [gives, option?]

/-- The printed clauses ask for the invocation. -/
theorem ofClauses_printedClauses (proper : invocation.IsProper) :
    ofClauses invocation.template invocation.subjects invocation.printedClauses = invocation := by
  have validators : assignments .validator invocation.printedClauses = invocation.validators :=
    assignments_printedClauses (by decide) rfl fun assignment listed =>
      proper.assignments assignment (List.mem_append_left _ listed)
  have defaults : assignments .default invocation.printedClauses = invocation.defaults :=
    assignments_printedClauses (by decide) rfl fun assignment listed =>
      proper.assignments assignment (List.mem_append_right _ listed)
  have file : (values .file invocation.printedClauses).getLast? = invocation.file := by
    rw [values_printedClauses (by decide), optionClauses]
    cases invocation.file <;> rfl
  simp (disch := decide) only [ofClauses, validators, defaults, file, gives_printedClauses,
    optionClauses, gives_ite]

/-- Nothing is wrong with the printed clauses. -/
theorem isAccepted_printedClauses (proper : invocation.IsProper) :
    IsAccepted invocation.printedClauses := by
  refine isAccepted_iff.mpr ⟨?_, ?_, ?_, ?_⟩
  · intro clause member
    obtain ⟨option, _, member⟩ := List.mem_flatMap.mp member
    exact isSound_of_mem_optionClauses proper member
  · refine List.pairwise_flatMap.mpr ⟨fun option _ => pairwise_optionClauses _ option, ?_⟩
    have distinct : printedOptions.Pairwise (· ≠ ·) := by decide
    refine distinct.imp fun different first member second member' option given given' => ?_
    -- clauses of different options do not give the same one
    rw [option?_of_mem_optionClauses member] at given
    rw [option?_of_mem_optionClauses member'] at given'
    exact absurd (Option.some.inj (given.trans given'.symm)) different
  · rintro ⟨_, subjects⟩
    exact subjects (congrArg List.tail (positionals_printedClauses invocation))
  · rintro ⟨json, quiet⟩
    have same := ofClauses_printedClauses proper
    exact proper.formats ⟨(congrArg Invocation.quiet same).symm.trans quiet,
      (congrArg Invocation.json same).symm.trans json⟩

/-- What the command line of a proper invocation asks for is the invocation. -/
theorem ofArguments_of_isProper (proper : invocation.IsProper) :
    ofArguments invocation.toArguments = .ok invocation := by
  let texts := invocation.template :: invocation.subjects
  have none : "--" ∉ ([] : List String) := List.not_mem_nil
  have behind : Clause.ofTexts ("--" :: texts) = texts.map .positional :=
    ofTexts_append_separator none texts
  have clauses : Clause.ofTexts invocation.toArguments =
      invocation.printedClauses ++ texts.map .positional := by
    rw [toArguments, (writesAll_printed invocation).ofTexts, behind]
  have bare := positionals_printedClauses invocation
  refine ofArguments_eq_ok_iff.mpr ⟨?_, invocation.template, invocation.subjects, ?_, ?_⟩
  · rw [clauses, isAccepted_append_iff bare, gives_file_printedClauses]
    refine ⟨isAccepted_printedClauses proper, fun file => ?_⟩
    by_contra subjects
    exact proper.sources ⟨file, subjects⟩
  · rw [clauses, positionals_append, bare, positionals_map, List.nil_append]
  · rw [clauses, ofClauses_append]
    exact ofClauses_printedClauses proper

/-- Some command line asks for an invocation exactly if the invocation is proper, and then its own
command line does: the options by their long names, with their values attached and the validators
and the default values in their order, and behind two hyphens the template and the subjects. -/
theorem ofArguments_toArguments_iff (invocation : Invocation) :
    ((∃ texts, ofArguments texts = .ok invocation) ↔ invocation.IsProper) ∧
      (ofArguments invocation.toArguments = .ok invocation ↔ invocation.IsProper) := by
  have proper : ∀ {texts}, ofArguments texts = .ok invocation → invocation.IsProper := by
    intro texts parsed
    obtain ⟨accepted, template, subjects, positional, rfl⟩ := ofArguments_eq_ok_iff.mp parsed
    exact accepted.isProper positional
  refine ⟨⟨fun ⟨_, parsed⟩ => proper parsed, fun sound => ?_⟩, proper, ofArguments_of_isProper⟩
  exact ⟨_, ofArguments_of_isProper sound⟩

/-- Texts that look like options or are empty come back from behind equals signs and hyphens. -/
example :
    let invocation : Invocation :=
      ⟨"--json", [], [⟨"-a", ""⟩, ⟨"-a", "=x="⟩], [⟨"b", "--"⟩], some "=", true, false, false, true⟩
    invocation.toArguments = ["--json", "--no-color", "--file==", "--validator=-a=",
        "--validator=-a==x=", "--default=b=--", "--", "--json"] ∧
      ofArguments invocation.toArguments = .ok invocation := by
  decide +kernel

end Invocation

end TextTemplate.CommandLine
