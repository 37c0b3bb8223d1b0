import Mathlib.Data.List.Induction
import TextTemplate.Proofs.CommandLine.Lexemes

/-!
# Accepted command lines

Which clauses a command line may have, and what it asks for then. Every clause is right by itself,
an option is given again only if it may be repeated, and no two parameters are given that exclude
each other. The order of the clauses does not decide whether they are accepted, and it matters only
within the positional arguments, the validators and the default values. -/

namespace TextTemplate.CommandLine

namespace Clause

def positional? : Clause → Option String
  | positional text => some text
  | _ => none

def option? : Clause → Option Parameter
  | flag option => some option
  | value option _ => some option
  | _ => none

def valueOf? (option : Parameter) : Clause → Option String
  | value other text => if other = option then some text else none
  | _ => none

def positionals (clauses : List Clause) : List String := clauses.filterMap positional?

def values (option : Parameter) (clauses : List Clause) : List String :=
  clauses.filterMap (valueOf? option)

def assignments (option : Parameter) (clauses : List Clause) : List Assignment :=
  (values option clauses).filterMap fun text => (Assignment.ofText text).toOption

def gives (option : Parameter) (clauses : List Clause) : Bool :=
  clauses.any fun clause => clause.option? = some option

def IsGiven (clauses : List Clause) : Parameter → Prop
  | .template => positionals clauses ≠ []
  | .subjects => (positionals clauses).tail ≠ []
  | option => gives option clauses = true

/-- The option of a clause is one that has a name, and it has a value exactly if it takes one. -/
def IsNamed : Clause → Prop
  | flag option => option.takesValue = false ∧ option ≠ .template ∧ option ≠ .subjects
  | value option _ => option.takesValue = true
  | _ => True

/-- A clause is right by itself. -/
def IsSound : Clause → Prop
  | fault _ => False
  | flag option => option ≠ .help ∧ option ≠ .version
  | value .validator text => ∃ assignment, Assignment.ofText text = .ok assignment
  | value .default text => ∃ assignment, Assignment.ofText text = .ok assignment
  | value .file text => text ≠ ""
  | _ => True

/-- A clause does not repeat another one that must not be repeated. -/
def Tolerates (first second : Clause) : Prop :=
  ∀ option, first.option? = some option → second.option? = some option →
    option.isRepeatable = true

/-- The clauses of a command line that is accepted, but for the template: each of them is right by
itself, nothing is given too often, and no two parameters exclude each other. -/
structure IsAccepted (clauses : List Clause) : Prop where
  sound : ∀ clause ∈ clauses, clause.IsSound
  tolerant : clauses.Pairwise Tolerates
  peaceful : ∀ parameter rival, parameter.rival? = some rival → IsGiven clauses parameter →
    ¬ IsGiven clauses rival

end Clause

/-- The invocation that clauses ask for, with their positional arguments. -/
def Invocation.ofClauses (template : String) (subjects : List String) (clauses : List Clause) :
    Invocation where
  template
  subjects
  validators := Clause.assignments .validator clauses
  defaults := Clause.assignments .default clauses
  file := (Clause.values .file clauses).getLast?
  json := Clause.gives .json clauses
  showSource := Clause.gives .showSource clauses
  quiet := Clause.gives .quiet clauses
  noColor := Clause.gives .noColor clauses

/-! ## Names -/

theorem Parameter.ofLongName?_ne {name : String} {option : Parameter}
    (named : ofLongName? name = some option) : option ≠ .template ∧ option ≠ .subjects := by
  have listed : option ∈ longNames.map Prod.snd := by
    obtain ⟨_, _, same, _⟩ := List.lookup_eq_some_iff.mp named
    rw [same]
    simp
  simp only [longNames, List.map_cons, List.map_nil, List.mem_cons, List.not_mem_nil] at listed
  constructor <;> rintro rfl <;> simp at listed

theorem Parameter.ofShortName?_ne {letter : Char} {option : Parameter}
    (named : ofShortName? letter = some option) : option ≠ .template ∧ option ≠ .subjects := by
  unfold ofShortName? at named
  split at named <;> cases named <;> decide

/-- The option of a lexeme is one that has a name, and it has a value or waits for one exactly if it
takes one. -/
def Lexeme.IsNamed : Lexeme → Prop
  | flag option => option.takesValue = false ∧ option ≠ .template ∧ option ≠ .subjects
  | attached option _ => option.takesValue = true
  | awaiting option => option.takesValue = true
  | _ => True

theorem Lexeme.isNamed_ofLong (text : List Char) : (ofLong text).IsNamed := by
  unfold ofLong
  dsimp only
  split
  · trivial
  · next option named _ =>
    cases takes : option.takesValue
    · exact ⟨takes, Parameter.ofLongName?_ne named⟩
    · exact takes
  · next option _ value named _ =>
    cases takes : option.takesValue
    · trivial
    · exact takes

theorem Lexeme.isNamed_of_mem_ofShort {letters : List Char} {lexeme : Lexeme}
    (member : lexeme ∈ ofShort letters) : lexeme.IsNamed := by
  induction letters with
  | nil => cases member
  | cons letter rest ih =>
    unfold ofShort at member
    cases named : Parameter.ofShortName? letter with
    | none => rw [named] at member; rw [List.mem_singleton.mp member]; trivial
    | some option =>
      simp only [named] at member
      cases takes : option.takesValue
      · simp only [takes, Bool.false_eq_true, if_false, List.mem_cons] at member
        rcases member with rfl | member
        · exact ⟨takes, Parameter.ofShortName?_ne named⟩
        · exact ih member
      · simp only [takes, if_true] at member
        split at member <;> rw [List.mem_singleton.mp member] <;> exact takes

theorem Lexeme.isNamed_of_mem_ofTexts {texts : List String} {lexeme : Lexeme}
    (member : lexeme ∈ ofTexts texts) : lexeme.IsNamed := by
  induction texts with
  | nil => cases member
  | cons text rest ih =>
    unfold ofTexts at member
    split at member
    · obtain ⟨other, _, rfl⟩ := List.mem_map.mp member
      trivial
    · rcases List.mem_append.mp member with member | member
      · unfold ofText at member
        split at member
        · rw [List.mem_singleton.mp member]; exact isNamed_ofLong _
        · exact isNamed_of_mem_ofShort member
        · rw [List.mem_singleton.mp member]; trivial
      · exact ih member

theorem Clause.isNamed_ofLexemes {lexemes : List Lexeme}
    (named : ∀ lexeme ∈ lexemes, lexeme.IsNamed) :
    ∀ clause ∈ ofLexemes lexemes, clause.IsNamed := by
  induction lexemes using ofLexemes.induct with
  | case1 => simp [ofLexemes]
  | case6 option rest notPlain ih =>
    rw [List.forall_mem_cons] at named
    rw [ofLexemes_awaiting notPlain, List.forall_mem_cons]
    exact ⟨trivial, ih named.2⟩
  | case5 option text rest ih =>
    rw [List.forall_mem_cons, List.forall_mem_cons] at named
    rw [ofLexemes, List.forall_mem_cons]
    exact ⟨named.1, ih named.2.2⟩
  | case2 _ rest ih | case3 _ rest ih | case4 _ _ rest ih | case7 _ rest ih | case8 _ rest ih =>
    rw [List.forall_mem_cons] at named
    rw [ofLexemes, List.forall_mem_cons]
    exact ⟨named.1, ih named.2⟩

theorem Clause.isNamed_ofTexts {texts : List String} : ∀ clause ∈ ofTexts texts, clause.IsNamed :=
  isNamed_ofLexemes fun _ => Lexeme.isNamed_of_mem_ofTexts

/-! ## Lists of clauses -/

namespace Clause

section Lists

variable (first rest : List Clause)

@[simp] theorem positionals_append :
    positionals (first ++ rest) = positionals first ++ positionals rest :=
  List.filterMap_append

@[simp] theorem values_append (option : Parameter) :
    values option (first ++ rest) = values option first ++ values option rest :=
  List.filterMap_append

@[simp] theorem assignments_append (option : Parameter) :
    assignments option (first ++ rest) = assignments option first ++ assignments option rest := by
  simp [assignments]

@[simp] theorem gives_append (option : Parameter) :
    gives option (first ++ rest) = (gives option first || gives option rest) :=
  List.any_append

end Lists

variable {clauses : List Clause} {clause : Clause} {option parameter : Parameter}

@[simp] theorem positionals_singleton : positionals [clause] = clause.positional?.toList := by
  cases clause <;> rfl

@[simp] theorem values_singleton : values option [clause] = (clause.valueOf? option).toList := by
  unfold values
  cases found : clause.valueOf? option <;> simp [found]

@[simp] theorem assignments_singleton : assignments option [clause] =
    ((clause.valueOf? option).bind fun text => (Assignment.ofText text).toOption).toList := by
  unfold assignments
  rw [values_singleton]
  cases clause.valueOf? option with
  | none => rfl
  | some text => cases spelled : (Assignment.ofText text).toOption <;> simp [spelled]

@[simp] theorem gives_singleton :
    gives option [clause] = decide (clause.option? = some option) := by
  simp [gives]

theorem IsNamed.option?_ne (named : clause.IsNamed) (given : clause.option? = some option) :
    option ≠ .template ∧ option ≠ .subjects := by
  cases clause with
  | fault error | positional text => cases given
  | flag other => cases given; exact named.2
  | value other text =>
    cases given
    constructor <;> rintro rfl <;> cases named

theorem positional?_of_option? (given : clause.option? = some option) :
    clause.positional? = none := by
  cases clause <;> first | rfl | cases given

theorem valueOf?_eq_some_iff {text : String} :
    clause.valueOf? option = some text ↔ clause = value option text := by
  cases clause with
  | value other given => simp [valueOf?]
  | fault | flag | positional => simp [valueOf?]

theorem isGiven_append_option (named : clause.IsNamed) (given : clause.option? = some option) :
    IsGiven (clauses ++ [clause]) parameter ↔ parameter = option ∨ IsGiven clauses parameter := by
  have other := named.option?_ne given
  have none := positional?_of_option? given
  cases parameter
  case template => simp [IsGiven, none, other.1.symm]
  case subjects => simp [IsGiven, none, other.2.symm]
  all_goals
    simp only [IsGiven, gives_append, gives_singleton, given, Bool.or_eq_true, decide_eq_true_eq,
      Option.some.injEq]
    exact or_comm.trans (or_congr eq_comm Iff.rfl)

theorem isGiven_iff_of_option? (named : clause.IsNamed) (given : clause.option? = some option) :
    IsGiven clauses option ↔ ∃ other ∈ clauses, other.option? = some option := by
  have other := named.option?_ne given
  cases option
  case template | subjects => simp at other
  all_goals simp [IsGiven, gives]

theorem forall_tolerates_iff (named : clause.IsNamed) (given : clause.option? = some option) :
    (∀ earlier ∈ clauses, Tolerates earlier clause) ↔
      (IsGiven clauses option → option.isRepeatable = true) := by
  rw [isGiven_iff_of_option? named given]
  constructor
  · rintro tolerant ⟨earlier, member, same⟩
    exact tolerant earlier member option same given
  · intro repeatable earlier member other same same'
    cases given.symm.trans same'
    exact repeatable ⟨earlier, member, same⟩

theorem isGiven_append_positional {text : String} :
    IsGiven (clauses ++ [positional text]) parameter ↔
      parameter = (if positionals clauses = [] then .template else .subjects) ∨
        IsGiven clauses parameter := by
  cases before : positionals clauses <;> cases parameter <;>
    simp [IsGiven, before, option?, positional?]

end Clause

/-! ## Accepted clauses -/

namespace Clause

variable {clauses other : List Clause} {template path : String}

/-- Only a file and subjects exclude each other, and the formats other than the usual one. -/
theorem peaceful_iff :
    (∀ parameter rival, parameter.rival? = some rival → IsGiven clauses parameter →
        ¬ IsGiven clauses rival) ↔
      ¬ (IsGiven clauses .file ∧ IsGiven clauses .subjects) ∧
        ¬ (IsGiven clauses .json ∧ IsGiven clauses .quiet) := by
  constructor
  · intro peaceful
    exact ⟨fun both => peaceful .file .subjects rfl both.1 both.2,
      fun both => peaceful .json .quiet rfl both.1 both.2⟩
  · rintro ⟨sources, formats⟩ parameter rival rivals given given'
    cases parameter <;> cases rivals
    · exact sources ⟨given', given⟩
    · exact sources ⟨given, given'⟩
    · exact formats ⟨given, given'⟩
    · exact formats ⟨given', given⟩

theorem isAccepted_iff :
    IsAccepted clauses ↔
      (∀ clause ∈ clauses, clause.IsSound) ∧ clauses.Pairwise Tolerates ∧
        ¬ (IsGiven clauses .file ∧ IsGiven clauses .subjects) ∧
          ¬ (IsGiven clauses .json ∧ IsGiven clauses .quiet) := by
  rw [← peaceful_iff]
  exact ⟨fun accepted => ⟨accepted.sound, accepted.tolerant, accepted.peaceful⟩,
    fun ⟨sound, tolerant, peaceful⟩ => ⟨sound, tolerant, peaceful⟩⟩

theorem Tolerates.symm {first second : Clause} (tolerates : Tolerates first second) :
    Tolerates second first :=
  fun option same same' => tolerates option same' same

theorem isGiven_of_perm (same : clauses.Perm other) {parameter : Parameter} :
    IsGiven clauses parameter ↔ IsGiven other parameter := by
  have lengths : (positionals clauses).length = (positionals other).length :=
    (same.filterMap _).length_eq
  cases parameter
  case template =>
    rw [IsGiven, IsGiven, ← List.length_pos_iff, ← List.length_pos_iff, lengths]
  case subjects =>
    rw [IsGiven, IsGiven, ← List.length_pos_iff, ← List.length_pos_iff, List.length_tail,
      List.length_tail, lengths]
  all_goals exact iff_of_eq (congrArg (· = true) (same.any_eq))

/-- The order of the clauses does not decide whether they are accepted. -/
theorem IsAccepted.perm (accepted : IsAccepted clauses) (same : clauses.Perm other) :
    IsAccepted other where
  sound clause member := accepted.sound clause (same.mem_iff.mpr member)
  tolerant := same.pairwise accepted.tolerant Tolerates.symm
  peaceful parameter rival rivals given given' :=
    accepted.peaceful parameter rival rivals ((isGiven_of_perm same).mpr given)
      ((isGiven_of_perm same).mpr given')

section Options

variable {first rest : List Clause} (bare : positionals clauses = [])

@[simp] theorem positionals_map (texts : List String) :
    positionals (texts.map positional) = texts := by
  induction texts with
  | nil => rfl
  | cons text texts ih => exact congrArg (text :: ·) ih

@[simp] theorem values_map (option : Parameter) (texts : List String) :
    values option (texts.map positional) = [] := by
  simp [values, valueOf?]

@[simp] theorem gives_map (option : Parameter) (texts : List String) :
    gives option (texts.map positional) = false := by
  simp [gives, option?]

include bare in
/-- Behind options alone the positional arguments are right in any number, but a file goes with one
of them at most. -/
theorem isAccepted_append_iff (texts : List String) :
    IsAccepted (clauses ++ texts.map positional) ↔
      IsAccepted clauses ∧ (gives .file clauses = true → texts.tail = []) := by
  have sound : (∀ clause ∈ clauses ++ texts.map positional, clause.IsSound) ↔
      ∀ clause ∈ clauses, clause.IsSound := by
    simp [or_imp, forall_and, IsSound]
  have tolerant : (clauses ++ texts.map positional).Pairwise Tolerates ↔
      clauses.Pairwise Tolerates := by
    have others : texts.Pairwise fun _ _ => True := List.pairwise_of_forall fun _ _ => trivial
    simp [List.pairwise_append, List.pairwise_map, Tolerates, option?, others]
  rw [isAccepted_iff, isAccepted_iff, sound, tolerant]
  simp only [IsGiven, positionals_append, bare, positionals_map, List.nil_append, gives_append,
    gives_map, Bool.or_false, List.tail_nil, ne_eq, not_true_eq_false, and_false,
    not_false_eq_true, true_and, not_and, not_not]
  tauto

/-- An option that takes a value is given exactly if it has one. -/
theorem gives_eq_false_iff {option : Parameter} (named : ∀ clause ∈ clauses, clause.IsNamed)
    (takes : option.takesValue = true) :
    gives option clauses = false ↔ values option clauses = [] := by
  simp only [gives, values, List.any_eq_false, List.filterMap_eq_nil_iff, decide_eq_true_eq]
  refine forall₂_congr fun clause member => ?_
  cases clause with
  | fault error | positional text => simp [option?, valueOf?]
  | value other text => simp [option?, valueOf?]
  | flag other =>
    have needless : other ≠ option := by
      rintro rfl
      exact absurd (takes.symm.trans (named _ member).1) (by decide)
    simp [option?, valueOf?, needless]

/-- A file can be added to options alone. -/
theorem IsAccepted.insert_file (accepted : IsAccepted (first ++ rest))
    (bare : positionals (first ++ rest) = []) (noFile : gives .file (first ++ rest) = false)
    (filled : path ≠ "") : IsAccepted (first ++ value .file path :: rest) := by
  refine IsAccepted.perm ?_ List.perm_middle.symm
  obtain ⟨sound, tolerant, _, formats⟩ := isAccepted_iff.mp accepted
  refine isAccepted_iff.mpr ⟨?_, ?_, ?_, ?_⟩
  · exact List.forall_mem_cons.mpr ⟨filled, sound⟩
  · refine List.pairwise_cons.mpr ⟨fun clause member option same same' => ?_, tolerant⟩
    cases same
    have given : gives .file (first ++ rest) = true :=
      List.any_eq_true.mpr ⟨clause, member, decide_eq_true same'⟩
    exact absurd (noFile.symm.trans given) (by decide)
  · rintro ⟨_, subjects⟩
    exact subjects (congrArg List.tail bare)
  · exact formats

end Options

end Clause

section Invocations

variable {first rest : List Clause} {template path : String} {subjects : List String}

/-- Beyond the template and the subjects, positional arguments do nothing to an invocation. -/
theorem Invocation.ofClauses_append (clauses : List Clause) (texts : List String) :
    ofClauses template subjects (clauses ++ texts.map Clause.positional) =
      ofClauses template subjects clauses := by
  have none : ∀ option, Clause.assignments option (texts.map Clause.positional) = [] := by
    simp [Clause.assignments]
  simp only [ofClauses, Clause.assignments_append, none, Clause.values_append, Clause.values_map,
    Clause.gives_append, Clause.gives_map, List.append_nil, Bool.or_false]

/-- The value of the only option for a file is the file of the invocation. -/
theorem Invocation.ofClauses_insert_file (noFile : Clause.values .file rest = []) :
    ofClauses template subjects (first ++ .value .file path :: rest) =
      { ofClauses template subjects (first ++ rest) with file := some path } := by
  rw [List.append_cons]
  simp only [ofClauses, Clause.assignments_append, Clause.assignments_singleton,
    Clause.values_append, Clause.values_singleton, Clause.gives_append, Clause.gives_singleton,
    noFile]
  simp [Clause.valueOf?, Clause.option?]

end Invocations

/-! ## Taking clauses -/

namespace Arguments

open Clause

/-- What has been read is what the clauses give, the first positional argument as the template and
the others as subjects, and no option waits. -/
structure Reflects (clauses : List Clause) (arguments : Arguments) : Prop where
  template : arguments.template = (positionals clauses).head?
  subjects : arguments.subjects.reverse = (positionals clauses).tail
  validators : arguments.validators.reverse = assignments .validator clauses
  defaults : arguments.defaults.reverse = assignments .default clauses
  file : arguments.file = (values .file clauses).getLast?
  given : ∀ parameter, parameter ∈ arguments.given ↔ IsGiven clauses parameter
  free : arguments.waiting = Option.none

variable {arguments after : Arguments} {clauses : List Clause} {clause : Clause}

theorem reflects_none : Reflects [] none := by
  refine ⟨rfl, rfl, rfl, rfl, rfl, fun parameter => ?_, rfl⟩
  cases parameter <;> simp [none, IsGiven, positionals, gives]

/-- Noting a parameter changes nothing but the parameters given. -/
theorem exists_given_of_give {parameter : Parameter} (gave : arguments.give parameter = .ok after) :
    ∃ given, after = { arguments with given } ∧
      ∀ other, other ∈ given ↔ other = parameter ∨ other ∈ arguments.given := by
  rcases give_eq_ok_iff.mp gave with ⟨_, rfl⟩ | ⟨member, _, rfl⟩
  · exact ⟨_, rfl, fun other => List.mem_cons⟩
  · exact ⟨_, rfl, fun other => ⟨.inr, Or.rec (fun same => same ▸ member) id⟩⟩

/-- An option adds its assignments and its file to what has been read. -/
theorem Reflects.append_option {option : Parameter} (reflects : Reflects clauses arguments)
    (named : clause.IsNamed) (same : clause.option? = some option)
    (noted : ∀ other, other ∈ after.given ↔ other = option ∨ other ∈ arguments.given)
    (template : after.template = arguments.template)
    (subjects : after.subjects = arguments.subjects)
    (waiting : after.waiting = arguments.waiting)
    (validators : after.validators.reverse =
      arguments.validators.reverse ++ assignments .validator [clause])
    (defaults : after.defaults.reverse =
      arguments.defaults.reverse ++ assignments .default [clause])
    (file : after.file = (values .file [clause]).getLast?.or arguments.file) :
    Reflects (clauses ++ [clause]) after := by
  have bare : positionals (clauses ++ [clause]) = positionals clauses := by
    simp [positional?_of_option? same]
  refine ⟨?_, ?_, ?_, ?_, ?_, fun parameter => ?_, ?_⟩
  · rw [template, bare, reflects.template]
  · rw [subjects, bare, reflects.subjects]
  · rw [validators, assignments_append, reflects.validators]
  · rw [defaults, assignments_append, reflects.defaults]
  · rw [file, values_append, List.getLast?_append, reflects.file]
  · rw [noted, isGiven_append_option named same, reflects.given]
  · rw [waiting, reflects.free]

/-- A positional argument is the template or one more subject. -/
theorem Reflects.append_positional {text : String} {given : List Parameter}
    (reflects : Reflects clauses arguments)
    (noted : ∀ other, other ∈ given ↔
      other = (if positionals clauses = [] then .template else .subjects) ∨
        other ∈ arguments.given) {template : Option String} {subjects : List String}
    (first : template = (positionals clauses ++ [text]).head?)
    (others : subjects.reverse = (positionals clauses ++ [text]).tail) :
    Reflects (clauses ++ [.positional text]) { arguments with template, subjects, given } := by
  have texts : positionals (clauses ++ [.positional text]) = positionals clauses ++ [text] := by
    simp [positional?]
  refine ⟨texts ▸ first, texts ▸ others, ?_, ?_, ?_, fun parameter => ?_, reflects.free⟩
  · simpa [valueOf?] using reflects.validators
  · simpa [valueOf?] using reflects.defaults
  · simpa [valueOf?] using reflects.file
  · rw [noted, isGiven_append_positional, reflects.given]

/-- What a clause does to what has been read. -/
theorem Reflects.step (reflects : Reflects clauses arguments) (named : clause.IsNamed)
    (took : arguments.takeClause clause = .ok after) : Reflects (clauses ++ [clause]) after := by
  cases clause with
  | fault error => cases took
  | flag option =>
    obtain ⟨_, _, gave⟩ := (flag_eq_ok_iff reflects.free).mp took
    obtain ⟨_, rfl, noted⟩ := exists_given_of_give gave
    apply reflects.append_option named rfl noted <;> simp [valueOf?]
  | value option text =>
    obtain ⟨_, gave, stored⟩ := store_eq_ok_iff.mp took
    obtain ⟨_, rfl, noted⟩ := exists_given_of_give gave
    cases option
    case validator | default =>
      obtain ⟨assignment, spelled, rfl⟩ := stored
      apply reflects.append_option named rfl noted <;> simp [valueOf?, spelled, Except.toOption]
    case file =>
      obtain ⟨_, rfl⟩ := stored
      apply reflects.append_option named rfl noted <;> simp [valueOf?]
    all_goals cases named
  | positional text =>
    obtain ⟨_, took⟩ := (positional_eq_ok_iff reflects.free).mp took
    have template := reflects.template
    have subjects := reflects.subjects
    cases before : positionals clauses with
    | nil =>
      rw [before] at template subjects
      simp only [template, List.head?_nil] at took
      obtain ⟨gave, rfl⟩ := took
      obtain ⟨_, rfl, noted⟩ := exists_given_of_give gave
      apply reflects.append_positional <;> simp [before, noted, subjects]
    | cons first others =>
      rw [before] at template subjects
      simp only [template, List.head?_cons] at took
      obtain ⟨gave, rfl⟩ := took
      obtain ⟨_, rfl, noted⟩ := exists_given_of_give gave
      apply reflects.append_positional <;> simp [before, noted, template, subjects]

theorem exists_give_iff {parameter : Parameter} :
    (∃ after, arguments.give parameter = .ok after) ↔
      (parameter ∈ arguments.given → parameter.isRepeatable = true) := by
  simp only [give_eq_ok_iff]
  by_cases member : parameter ∈ arguments.given <;> simp [member]

/-- A clause can be taken exactly if it is right by itself and does not repeat what must not be
repeated. -/
theorem Reflects.exists_takeClause_iff (reflects : Reflects clauses arguments)
    (named : clause.IsNamed) :
    (∃ after, arguments.takeClause clause = .ok after) ↔
      clause.IsSound ∧ ∀ earlier ∈ clauses, Tolerates earlier clause := by
  have given := reflects.given
  cases clause with
  | fault error => simp [takeClause, IsSound]
  | flag option =>
    rw [forall_tolerates_iff named rfl, ← given, ← exists_give_iff]
    simp only [takeClause, flag_eq_ok_iff reflects.free, IsSound, exists_and_left, and_assoc]
  | value option text =>
    rw [forall_tolerates_iff named rfl, ← given, ← exists_give_iff]
    simp only [takeClause, store_eq_ok_iff]
    cases option
    case validator | default =>
      constructor
      · rintro ⟨_, noted, gave, assignment, spelled, rfl⟩
        exact ⟨⟨assignment, spelled⟩, noted, gave⟩
      · rintro ⟨⟨assignment, spelled⟩, noted, gave⟩
        exact ⟨_, noted, gave, assignment, spelled, rfl⟩
    case file =>
      constructor
      · rintro ⟨_, noted, gave, filled, rfl⟩
        exact ⟨filled, noted, gave⟩
      · rintro ⟨filled, noted, gave⟩
        exact ⟨_, noted, gave, filled, rfl⟩
    all_goals cases named
  | positional text =>
    have tolerant : ∀ earlier ∈ clauses, Tolerates earlier (.positional text) :=
      fun _ _ _ _ same => by cases same
    refine ⟨fun _ => ⟨trivial, tolerant⟩, fun _ => ?_⟩
    simp only [takeClause, positional_eq_ok_iff reflects.free]
    cases before : arguments.template with
    | none =>
      have first : positionals clauses = [] := by simpa [before] using reflects.template.symm
      obtain ⟨noted, gave⟩ := exists_give_iff.mpr fun member =>
        absurd first ((given .template).mp member)
      exact ⟨_, noted, gave, rfl⟩
    | some template =>
      obtain ⟨noted, gave⟩ : ∃ noted, arguments.give .subjects = .ok noted :=
        exists_give_iff.mpr fun _ => rfl
      exact ⟨_, noted, gave, rfl⟩

/-! ## Taking all clauses -/

theorem Reflects.of_foldlM (named : ∀ clause ∈ clauses, clause.IsNamed)
    (took : clauses.foldlM takeClause none = .ok arguments) : Reflects clauses arguments := by
  induction clauses using List.reverseRecOn generalizing arguments with
  | nil => cases took; exact reflects_none
  | append_singleton clauses clause ih =>
    rw [List.forall_mem_append] at named
    obtain ⟨before, took, last⟩ := bind_eq_ok_iff.mp (List.foldlM_append.symm.trans took)
    exact (ih named.1 took).step (named.2 clause (List.mem_singleton.mpr rfl)) (by simpa using last)

theorem exists_foldlM_iff (named : ∀ clause ∈ clauses, clause.IsNamed) :
    (∃ arguments, clauses.foldlM takeClause none = .ok arguments) ↔
      (∀ clause ∈ clauses, clause.IsSound) ∧ clauses.Pairwise Tolerates := by
  induction clauses using List.reverseRecOn with
  | nil => simp [pure, Except.pure]
  | append_singleton clauses clause ih =>
    rw [List.forall_mem_append] at named
    have step : ∀ before, clauses.foldlM takeClause none = .ok before →
        ((∃ after, before.takeClause clause = .ok after) ↔
          clause.IsSound ∧ ∀ earlier ∈ clauses, Tolerates earlier clause) := fun before took =>
      (Reflects.of_foldlM named.1 took).exists_takeClause_iff
        (named.2 clause (List.mem_singleton.mpr rfl))
    have split : (∃ after, (clauses ++ [clause]).foldlM takeClause none = .ok after) ↔
        (∃ before, clauses.foldlM takeClause none = .ok before) ∧
          clause.IsSound ∧ ∀ earlier ∈ clauses, Tolerates earlier clause := by
      simp only [List.foldlM_append, bind_eq_ok_iff, List.foldlM_cons, List.foldlM_nil,
        pure_eq_ok_iff]
      constructor
      · rintro ⟨_, before, took, after, last, rfl⟩
        exact ⟨⟨before, took⟩, (step before took).mp ⟨_, last⟩⟩
      · rintro ⟨⟨before, took⟩, sound⟩
        obtain ⟨after, last⟩ := (step before took).mpr sound
        exact ⟨_, before, took, after, last, rfl⟩
    rw [split, ih named.1, List.forall_mem_append, List.pairwise_append]
    simp only [List.forall_mem_singleton, List.pairwise_singleton, true_and]
    tauto

theorem conflict?_eq_none_iff {given : List Parameter} :
    conflict? given = Option.none ↔
      ∀ parameter rival, parameter.rival? = some rival → parameter ∈ given → rival ∉ given := by
  simp only [conflict?, List.findSome?_eq_none_iff, List.mem_reverse]
  constructor
  · intro peaceful parameter rival rivals member
    simpa [rivals] using peaceful parameter member
  · intro peaceful parameter member
    cases rivals : parameter.rival? with
    | none => rfl
    | some rival => simpa using peaceful parameter rival rivals member

theorem Reflects.isAccepted_iff (reflects : Reflects clauses arguments)
    (sound : (∀ clause ∈ clauses, clause.IsSound) ∧ clauses.Pairwise Tolerates) :
    IsAccepted clauses ↔ conflict? arguments.given = Option.none := by
  simp only [conflict?_eq_none_iff, reflects.given]
  exact ⟨fun accepted => accepted.peaceful, fun peaceful => ⟨sound.1, sound.2, peaceful⟩⟩

theorem Reflects.invocation_eq (reflects : Reflects clauses arguments) {template : String}
    {subjects : List String} (texts : positionals clauses = template :: subjects) :
    arguments.invocation template = Invocation.ofClauses template subjects clauses := by
  have member : ∀ option, option ≠ .template → option ≠ .subjects →
      decide (option ∈ arguments.given) = gives option clauses := by
    intro option notTemplate notSubjects
    rw [Bool.eq_iff_iff, decide_eq_true_iff, reflects.given]
    cases option <;> first | contradiction | rfl
  simp [invocation, Invocation.ofClauses, reflects.subjects, reflects.validators, reflects.defaults,
    reflects.file, texts, member]

/-- The clauses of a command line decide whether it is accepted, and what it asks for. -/
theorem readClauses_eq_ok_iff {asked : Invocation} (named : ∀ clause ∈ clauses, clause.IsNamed) :
    none.readClauses clauses = .ok asked ↔
      IsAccepted clauses ∧ ∃ template subjects, positionals clauses = template :: subjects ∧
        Invocation.ofClauses template subjects clauses = asked := by
  have read := exists_foldlM_iff named
  simp only [readClauses, bind_eq_ok_iff, finish_eq_ok_iff]
  constructor
  · rintro ⟨arguments, took, settled, same, peaceful, template, first, rfl⟩
    have reflects := Reflects.of_foldlM named took
    cases (settle_of_free reflects.free).symm.trans same
    obtain ⟨subjects, texts⟩ := List.head?_eq_some_iff.mp (reflects.template.symm.trans first)
    exact ⟨(reflects.isAccepted_iff (read.mp ⟨_, took⟩)).mpr peaceful, template, subjects, texts,
      (reflects.invocation_eq texts).symm⟩
  · rintro ⟨accepted, template, subjects, texts, rfl⟩
    obtain ⟨arguments, took⟩ := read.mpr ⟨accepted.sound, accepted.tolerant⟩
    have reflects := Reflects.of_foldlM named took
    refine ⟨arguments, took, arguments, settle_of_free reflects.free, ?_, template, ?_, ?_⟩
    · exact (reflects.isAccepted_iff ⟨accepted.sound, accepted.tolerant⟩).mp accepted
    · rw [reflects.template, texts, List.head?_cons]
    · exact reflects.invocation_eq texts

end Arguments

/-- A command line is accepted exactly if its clauses are and a template is among them. -/
theorem Invocation.ofArguments_eq_ok_iff {texts : List String} {asked : Invocation} :
    Invocation.ofArguments texts = .ok asked ↔
      Clause.IsAccepted (Clause.ofTexts texts) ∧ ∃ template subjects,
        Clause.positionals (Clause.ofTexts texts) = template :: subjects ∧
          Invocation.ofClauses template subjects (Clause.ofTexts texts) = asked :=
  Invocation.ofArguments_eq_ok_iff_readClauses.trans
    (Arguments.readClauses_eq_ok_iff Clause.isNamed_ofTexts)

end TextTemplate.CommandLine
