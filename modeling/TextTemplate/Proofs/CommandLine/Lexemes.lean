import TextTemplate.CommandLine.Arguments
import TextTemplate.Proofs.Reading.Result

/-!
# Lexemes of a command line

What an argument is read as does not depend on what has been read before: it gives lexemes, and only
what becomes of a lexeme depends on the option that waits. Together the lexemes make the clauses of
the command line, in which each option has its value, and taking these clauses one after the other
leads to the same invocation as reading the command line. -/

namespace TextTemplate.CommandLine

/-- What an argument, or a letter of it, is read as. A plain text is the value of the option that
waits, else a positional argument. -/
inductive Lexeme
  | fault (error : UsageError)
  | flag (option : Parameter)
  | attached (option : Parameter) (value : String)
  | awaiting (option : Parameter)
  | plain (text : String)
  | positional (text : String)
deriving DecidableEq, Repr

/-- A clause of a command line: an option with the value that belongs to it, or a positional
argument. An option without the value that it needs is a fault. -/
inductive Clause
  | fault (error : UsageError)
  | flag (option : Parameter)
  | value (option : Parameter) (text : String)
  | positional (text : String)
deriving DecidableEq, Repr

namespace Lexeme

/-- The lexeme of an argument that starts with two hyphens. -/
def ofLong (text : List Char) : Lexeme :=
  let name := String.ofList (text.takeWhile (· ≠ '='))
  match Parameter.ofLongName? name, text.dropWhile (· ≠ '=') with
  | none, _ => fault (.unknownOption ("--" ++ name))
  | some option, [] => if option.takesValue then awaiting option else flag option
  | some option, _ :: value =>
    if option.takesValue then attached option (String.ofList value)
    else fault (.needlessValue (String.ofList value) option)

/-- The lexemes of the short names behind a single hyphen. -/
def ofShort : List Char → List Lexeme
  | [] => []
  | letter :: rest =>
    match Parameter.ofShortName? letter with
    | none => [fault (.unknownOption (String.ofList ['-', letter]))]
    | some option =>
      if option.takesValue then
        match rest with
        | [] => [awaiting option]
        | '=' :: value => [attached option (String.ofList value)]
        | value => [attached option (String.ofList value)]
      else flag option :: ofShort rest

/-- The lexemes of an argument other than two hyphens alone. -/
def ofText (text : String) : List Lexeme :=
  match text.toList with
  | '-' :: '-' :: option => [ofLong option]
  | '-' :: letter :: letters => ofShort (letter :: letters)
  | _ => [plain text]

def ofTexts : List String → List Lexeme
  | [] => []
  | text :: rest => if text = "--" then rest.map positional else ofText text ++ ofTexts rest

end Lexeme

namespace Clause

/-- The clauses that lexemes make: an option that waits takes a plain text directly behind it as its
value. -/
def ofLexemes : List Lexeme → List Clause
  | [] => []
  | .fault error :: rest => fault error :: ofLexemes rest
  | .flag option :: rest => flag option :: ofLexemes rest
  | .attached option text :: rest => value option text :: ofLexemes rest
  | .awaiting option :: .plain text :: rest => value option text :: ofLexemes rest
  | .awaiting option :: rest => fault (.valueMissing option) :: ofLexemes rest
  | .plain text :: rest => positional text :: ofLexemes rest
  | .positional text :: rest => positional text :: ofLexemes rest

/-- An option that waits is a fault if no plain text follows directly. -/
theorem ofLexemes_awaiting {option : Parameter} {rest : List Lexeme}
    (notPlain : ∀ text others, rest ≠ .plain text :: others) :
    ofLexemes (.awaiting option :: rest) = fault (.valueMissing option) :: ofLexemes rest := by
  cases rest with
  | nil => rfl
  | cons lexeme others =>
    cases lexeme with
    | plain text => exact absurd rfl (notPlain text others)
    | fault | flag | attached | awaiting | positional => rfl

def ofTexts (texts : List String) : List Clause := ofLexemes (Lexeme.ofTexts texts)

end Clause

namespace Arguments

def take (arguments : Arguments) : Lexeme → Except Halt Arguments
  | .fault error => .error (.usage error)
  | .flag option => arguments.flag option
  | .attached option value => arguments.attached option value
  | .awaiting option => arguments.await option
  | .plain text => arguments.plain text
  | .positional text => arguments.positional text

def takeClause (arguments : Arguments) : Clause → Except Halt Arguments
  | .fault error => .error (.usage error)
  | .flag option => arguments.flag option
  | .value option text => arguments.store option text
  | .positional text => arguments.positional text

/-! ## Reading lexeme by lexeme -/

theorem long_eq_take (text : List Char) (arguments : Arguments) :
    arguments.long text = arguments.take (Lexeme.ofLong text) := by
  simp only [long, Lexeme.ofLong]
  generalize String.ofList (text.takeWhile (· ≠ '=')) = name
  generalize text.dropWhile (· ≠ '=') = rest
  cases Parameter.ofLongName? name with
  | none => rfl
  | some option =>
    cases rest <;> cases takes : option.takesValue <;> simp [take, takes]

theorem short_eq_foldlM (letters : List Char) (arguments : Arguments) :
    short letters arguments = (Lexeme.ofShort letters).foldlM take arguments := by
  induction letters generalizing arguments with
  | nil => rfl
  | cons letter rest ih =>
    unfold short Lexeme.ofShort
    cases Parameter.ofShortName? letter with
    | none => rfl
    | some option =>
      dsimp only
      by_cases takes : option.takesValue = true
      · simp only [takes, if_true]
        split <;> simp [take]
      · simp only [takes, Bool.false_eq_true, if_false, List.foldlM_cons, ih]
        rfl

theorem takeAll_true_eq_foldlM (texts : List String) (arguments : Arguments) :
    takeAll true texts arguments = (texts.map Lexeme.positional).foldlM take arguments := by
  induction texts generalizing arguments with
  | nil => rfl
  | cons text rest ih =>
    simp only [takeAll, List.map_cons, List.foldlM_cons, ih]
    rfl

theorem takeAll_eq_foldlM (texts : List String) (arguments : Arguments) :
    takeAll false texts arguments = (Lexeme.ofTexts texts).foldlM take arguments := by
  induction texts generalizing arguments with
  | nil => rfl
  | cons text rest ih =>
    by_cases separator : text = "--"
    · subst separator
      exact takeAll_true_eq_foldlM rest arguments
    · have hyphens : text.toList ≠ ['-', '-'] := by
        intro same
        exact separator (String.toList_inj.mp same)
      rw [Lexeme.ofTexts, if_neg separator, List.foldlM_append]
      unfold takeAll
      split
      · next same => exact absurd same hyphens
      · next option _ same => simp [Lexeme.ofText, same, long_eq_take, ih]
      · next letter letters _ _ same =>
        simp [Lexeme.ofText, same, short_eq_foldlM, ih]
      · next => simp [Lexeme.ofText, take, ih]

/-! ## Options that wait -/

variable {arguments after : Arguments} {option : Parameter} {text : String}

theorem give_eq_ok_iff {parameter : Parameter} :
    arguments.give parameter = .ok after ↔
      (parameter ∉ arguments.given ∧
          after = { arguments with given := parameter :: arguments.given }) ∨
        (parameter ∈ arguments.given ∧ parameter.isRepeatable = true ∧ after = arguments) := by
  by_cases given : parameter ∈ arguments.given <;>
    cases repeatable : parameter.isRepeatable <;> simp [give, given, repeatable, eq_comm]

theorem waiting_of_give {parameter : Parameter} (gave : arguments.give parameter = .ok after) :
    after.waiting = arguments.waiting := by
  rcases give_eq_ok_iff.mp gave with ⟨_, rfl⟩ | ⟨_, _, rfl⟩ <;> rfl

theorem assignment_eq_ok_iff {value : Assignment} :
    assignment option text = .ok value ↔ Assignment.ofText text = .ok value := by
  unfold assignment
  cases Assignment.ofText text <;> simp

/-- Taking a value takes note of the option, and the value goes where it belongs. -/
theorem store_eq_ok_iff :
    arguments.store option text = .ok after ↔
      ∃ noted, arguments.give option = .ok noted ∧
        match option with
        | .validator => ∃ assignment, Assignment.ofText text = .ok assignment ∧
            { noted with validators := assignment :: noted.validators } = after
        | .default => ∃ assignment, Assignment.ofText text = .ok assignment ∧
            { noted with defaults := assignment :: noted.defaults } = after
        | .file => text ≠ "" ∧ { noted with file := some text } = after
        | _ => noted = after := by
  simp only [store, bind_eq_ok_iff]
  refine exists_congr fun noted => and_congr_right fun _ => ?_
  cases option with
  | validator | default => simp only [bind_eq_ok_iff, assignment_eq_ok_iff, pure_eq_ok_iff]
  | file => simp only [guard_eq_ok_iff, pure_eq_ok_iff, String.isEmpty_iff, ne_eq]
  | _ => exact pure_eq_ok_iff

theorem waiting_of_store (stored : arguments.store option text = .ok after) :
    after.waiting = arguments.waiting := by
  obtain ⟨noted, gave, stored⟩ := store_eq_ok_iff.mp stored
  have same := waiting_of_give gave
  cases option
  case validator | default => obtain ⟨_, _, rfl⟩ := stored; exact same
  case file => obtain ⟨_, rfl⟩ := stored; exact same
  all_goals exact (show noted = after from stored) ▸ same

theorem settle_of_free (free : arguments.waiting = Option.none) :
    arguments.settle = .ok arguments := by
  simp [settle, free]

theorem waiting_of_settle (settled : arguments.settle = .ok after) :
    after.waiting = Option.none := by
  unfold settle at settled
  split at settled
  · next free => exact (Except.ok.inj settled) ▸ free
  · cases settled
  · exact waiting_of_store settled

def invocation (arguments : Arguments) (template : String) : Invocation where
  template
  subjects := arguments.subjects.reverse
  validators := arguments.validators.reverse
  defaults := arguments.defaults.reverse
  file := arguments.file
  json := arguments.given.contains .json
  showSource := arguments.given.contains .showSource
  quiet := arguments.given.contains .quiet
  noColor := arguments.given.contains .noColor

theorem finish_eq_ok_iff {asked : Invocation} :
    arguments.finish = .ok asked ↔
      ∃ settled, arguments.settle = .ok settled ∧ conflict? settled.given = Option.none ∧
        ∃ template, settled.template = some template ∧ settled.invocation template = asked := by
  simp only [finish, bind_eq_ok_iff]
  refine exists_congr fun settled => and_congr_right fun _ => ?_
  cases conflict? settled.given with
  | some error => simp [throw, throwThe, MonadExceptOf.throw, bind, Except.bind]
  | none =>
    cases settled.template with
    | none => simp [throw, throwThe, MonadExceptOf.throw]
    | some template => simp [invocation, pure, Except.pure]

theorem plain_eq_positional
    (served : ∀ option, arguments.waiting ≠ some (option, Option.none)) :
    arguments.plain text = arguments.positional text := by
  unfold plain
  split
  · next option waits => exact absurd waits (served option)
  · rfl

theorem settle_bind_eq_ok_iff {α : Type} {rest : Arguments → Except Halt α} {result : α} :
    (arguments.settle >>= rest) = .ok result ↔
      ∃ settled, arguments.settle = .ok settled ∧ (settled.settle >>= rest) = .ok result := by
  rw [bind_eq_ok_iff]
  refine exists_congr fun settled => and_congr_right fun same => ?_
  rw [settle_of_free (waiting_of_settle same)]
  rfl

/-- An option that waits is settled first, unless the lexeme is the value that it waits for. -/
theorem take_eq_ok_iff_settle {lexeme : Lexeme}
    (ready : ∀ option text, lexeme = .plain text →
      arguments.waiting ≠ some (option, Option.none)) :
    arguments.take lexeme = .ok after ↔
      ∃ settled, arguments.settle = .ok settled ∧ settled.take lexeme = .ok after := by
  cases lexeme with
  | fault error => simp [take]
  | flag option => exact settle_bind_eq_ok_iff
  | attached option value => exact settle_bind_eq_ok_iff
  | awaiting option => exact settle_bind_eq_ok_iff
  | positional text => exact settle_bind_eq_ok_iff
  | plain text =>
    have served : ∀ settled, arguments.settle = .ok settled →
        settled.plain text = settled.positional text := fun settled same =>
      plain_eq_positional fun option => by simp [waiting_of_settle same]
    simp only [take]
    rw [plain_eq_positional fun option => ready option text rfl]
    exact settle_bind_eq_ok_iff.trans
      (exists_congr fun settled => and_congr_right fun same => by rw [served settled same]; rfl)

/-- Reads lexemes and then ends the command line. -/
def read (arguments : Arguments) (lexemes : List Lexeme) : Except Halt Invocation := do
  (← lexemes.foldlM take arguments).finish

/-- Takes clauses and then ends the command line. -/
def readClauses (arguments : Arguments) (clauses : List Clause) : Except Halt Invocation := do
  (← clauses.foldlM takeClause arguments).finish

theorem read_cons (lexeme : Lexeme) (rest : List Lexeme) :
    arguments.read (lexeme :: rest) = arguments.take lexeme >>= fun next => next.read rest := by
  simp [read]

theorem readClauses_cons (clause : Clause) (rest : List Clause) :
    arguments.readClauses (clause :: rest) =
      arguments.takeClause clause >>= fun next => next.readClauses rest := by
  simp [readClauses]

variable {asked : Invocation}

theorem read_eq_ok_iff_settle {lexemes : List Lexeme}
    (ready : ∀ option text, lexemes.head? = some (.plain text) →
      arguments.waiting ≠ some (option, Option.none)) :
    arguments.read lexemes = .ok asked ↔
      ∃ settled, arguments.settle = .ok settled ∧ settled.read lexemes = .ok asked := by
  cases lexemes with
  | nil => exact settle_bind_eq_ok_iff
  | cons lexeme rest =>
    have taken : ∀ next, arguments.take lexeme = .ok next ↔
        ∃ settled, arguments.settle = .ok settled ∧ settled.take lexeme = .ok next := fun next =>
      take_eq_ok_iff_settle fun option text same => ready option text (by rw [same]; rfl)
    simp only [read_cons, bind_eq_ok_iff, taken]
    constructor
    · rintro ⟨next, ⟨settled, same, took⟩, rest⟩
      exact ⟨settled, same, next, took, rest⟩
    · rintro ⟨settled, same, next, took, rest⟩
      exact ⟨next, ⟨settled, same, took⟩, rest⟩

theorem flag_eq_ok_iff (free : arguments.waiting = Option.none) :
    arguments.flag option = .ok after ↔
      option ≠ .help ∧ option ≠ .version ∧ arguments.give option = .ok after := by
  simp only [flag, settle_of_free free, bind, Except.bind]
  cases option <;> simp [throw, throwThe, MonadExceptOf.throw]

theorem positional_eq_ok_iff (free : arguments.waiting = Option.none) :
    arguments.positional text = .ok after ↔
      ∃ noted, match arguments.template with
        | .none => arguments.give .template = .ok noted ∧
            { noted with template := some text } = after
        | some _ => arguments.give .subjects = .ok noted ∧
            { noted with subjects := text :: arguments.subjects } = after := by
  have settled : arguments.positional text = match arguments.template with
      | .none => do return { (← arguments.give .template) with template := some text }
      | some _ => do
        return { (← arguments.give .subjects) with subjects := text :: arguments.subjects } := by
    rw [positional, settle_of_free free]
    rfl
  rw [settled]
  cases arguments.template <;> simp only [bind_eq_ok_iff, pure_eq_ok_iff]

theorem waiting_of_takeClause {clause : Clause} (free : arguments.waiting = Option.none)
    (took : arguments.takeClause clause = .ok after) : after.waiting = Option.none := by
  cases clause with
  | fault error => cases took
  | flag option => exact (waiting_of_give ((flag_eq_ok_iff free).mp took).2.2).trans free
  | value option text => exact (waiting_of_store took).trans free
  | positional text =>
    obtain ⟨noted, took⟩ := (positional_eq_ok_iff free).mp took
    split at took
    all_goals
      obtain ⟨gave, rfl⟩ := took
      exact (waiting_of_give gave).trans free

theorem read_cons_eq_ok_iff {clause : Clause} {lexeme : Lexeme} {rest : List Lexeme}
    (free : arguments.waiting = Option.none)
    (same : arguments.take lexeme = arguments.takeClause clause)
    (ih : ∀ {next : Arguments}, next.waiting = Option.none →
      (next.read rest = .ok asked ↔ next.readClauses (Clause.ofLexemes rest) = .ok asked)) :
    arguments.read (lexeme :: rest) = .ok asked ↔
      arguments.readClauses (clause :: Clause.ofLexemes rest) = .ok asked := by
  simp only [read_cons, readClauses_cons, bind_eq_ok_iff, same]
  exact exists_congr fun next => and_congr_right fun took => ih (waiting_of_takeClause free took)

theorem take_awaiting (free : arguments.waiting = Option.none) :
    arguments.take (.awaiting option) =
      .ok { arguments with waiting := some (option, Option.none) } := by
  rw [take, await, settle_of_free free]
  rfl

/-- The clauses of a command line decide what it asks for. -/
theorem read_eq_ok_iff (lexemes : List Lexeme) (free : arguments.waiting = Option.none) :
    arguments.read lexemes = .ok asked ↔
      arguments.readClauses (Clause.ofLexemes lexemes) = .ok asked := by
  induction lexemes using Clause.ofLexemes.induct generalizing arguments with
  | case1 => rfl
  | case2 error rest ih => simp [read_cons, readClauses_cons, Clause.ofLexemes, take, takeClause]
  | case3 option rest ih => exact read_cons_eq_ok_iff free rfl ih
  | case4 option text rest ih =>
    refine read_cons_eq_ok_iff free ?_ ih
    rw [take, attached, settle_of_free free]
    rfl
  | case5 option text rest ih =>
    have settled : ({ arguments with waiting := some (option, some text) } : Arguments).settle =
        arguments.store option text := by
      simp only [settle, ← free]
    rw [read_cons, take_awaiting free, Clause.ofLexemes, readClauses_cons]
    change Arguments.read _ rest = _ ↔ _
    rw [read_eq_ok_iff_settle fun _ _ _ => by simp, settled, bind_eq_ok_iff]
    exact exists_congr fun next => and_congr_right fun stored =>
      ih ((waiting_of_store stored).trans free)
  | case6 option rest notPlain ih =>
    have unready : ∀ other text, rest.head? = some (.plain text) →
        some (option, Option.none) ≠ some (other, (Option.none : Option String)) := by
      intro other text first
      obtain ⟨others, rfl⟩ := List.head?_eq_some_iff.mp first
      exact (notPlain text others rfl).elim
    rw [read_cons, take_awaiting free, Clause.ofLexemes_awaiting notPlain, readClauses_cons]
    change Arguments.read _ rest = _ ↔ _
    rw [read_eq_ok_iff_settle unready]
    simp [settle, takeClause]
  | case7 text rest ih =>
    exact read_cons_eq_ok_iff free (plain_eq_positional fun option => by simp [free]) ih
  | case8 text rest ih => exact read_cons_eq_ok_iff free rfl ih

end Arguments

/-- A command line asks for what its clauses ask for. -/
theorem Invocation.ofArguments_eq_ok_iff_readClauses {texts : List String} {asked : Invocation} :
    Invocation.ofArguments texts = .ok asked ↔
      Arguments.none.readClauses (Clause.ofTexts texts) = .ok asked := by
  rw [Clause.ofTexts, ← Arguments.read_eq_ok_iff _ rfl, Invocation.ofArguments,
    Arguments.takeAll_eq_foldlM]
  rfl

/-! ## Command lines one behind the other -/

theorem Lexeme.ofTexts_append {first : List String} (rest : List String)
    (unclosed : "--" ∉ first) :
    ofTexts (first ++ rest) = ofTexts first ++ ofTexts rest := by
  induction first with
  | nil => rfl
  | cons text first ih =>
    rw [List.mem_cons, not_or] at unclosed
    have other : text ≠ "--" := fun same => unclosed.1 same.symm
    simp only [List.cons_append, ofTexts, if_neg other, ih unclosed.2, List.append_assoc]

theorem Lexeme.ofTexts_append_of_mem {first : List String} (rest : List String)
    (closed : "--" ∈ first) :
    ofTexts (first ++ rest) = ofTexts first ++ rest.map positional := by
  induction first with
  | nil => cases closed
  | cons text first ih =>
    by_cases same : text = "--"
    · simp [ofTexts, same]
    · have later := (List.mem_cons.mp closed).resolve_left (Ne.symm same)
      simp only [List.cons_append, ofTexts, if_neg same, ih later, List.append_assoc]

namespace Clause

/-- The first lexemes do not end with an option that takes its value from the others. -/
def IsApart (first rest : List Lexeme) : Prop :=
  (∀ option, first.getLast? ≠ some (.awaiting option)) ∨ ∀ text, rest.head? ≠ some (.plain text)

theorem IsApart.tail {lexeme : Lexeme} {first rest : List Lexeme}
    (apart : IsApart (lexeme :: first) rest) : IsApart first rest := by
  refine apart.imp_left fun served option waits => served option ?_
  rw [List.getLast?_cons, waits]
  rfl

/-- Clauses that do not share an option and its value are made separately. -/
theorem ofLexemes_append {first rest : List Lexeme} (apart : IsApart first rest) :
    ofLexemes (first ++ rest) = ofLexemes first ++ ofLexemes rest := by
  induction first using ofLexemes.induct with
  | case1 => rfl
  | case5 option text first ih => exact congrArg (value option text :: ·) (ih apart.tail.tail)
  | case6 option first notPlain ih =>
    have notPlain' : ∀ text others, first ++ rest ≠ .plain text :: others := by
      intro text others starts
      cases first with
      | nil =>
        rcases apart with served | served
        · exact served option rfl
        · exact served text (congrArg List.head? starts)
      | cons lexeme first =>
        obtain ⟨rfl, -⟩ := List.cons.inj starts
        exact notPlain text first rfl
    rw [List.cons_append, ofLexemes_awaiting notPlain, ofLexemes_awaiting notPlain', ih apart.tail,
      List.cons_append]
  | case2 _ _ ih | case3 _ _ ih | case4 _ _ _ ih | case7 _ _ ih | case8 _ _ ih =>
    exact congrArg (_ :: ·) (ih apart.tail)

/-- An option that waits at the end is a fault. -/
theorem fault_mem_ofLexemes {lexemes : List Lexeme} {option : Parameter}
    (waits : lexemes.getLast? = some (.awaiting option)) :
    ∃ error, fault error ∈ ofLexemes lexemes := by
  obtain ⟨first, rfl⟩ := List.getLast?_eq_some_iff.mp waits
  rw [ofLexemes_append (.inr fun text => by simp)]
  exact ⟨_, List.mem_append_right _ (List.mem_singleton.mpr rfl)⟩

end Clause

end TextTemplate.CommandLine
