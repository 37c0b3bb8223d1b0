import TextTemplate.CommandLine.Run
import TextTemplate.Proofs.CommandLine.Paths
import TextTemplate.Proofs.CommandLine.Spelling
import TextTemplate.Proofs.CommandLine.Subjects

/-!
# Sources of subjects

Subjects that are lines can be given as arguments, in a file or on the standard input, and a run is
the same in all these cases. -/

namespace TextTemplate.CommandLine

open Clause

/-- Arguments are options without a positional argument and without a file among them, and they are
accepted: with a template behind them they ask for an invocation. -/
structure AreOptions (options : List String) (template : String) (invocation : Invocation) :
    Prop where
  accepted : Invocation.ofArguments (options ++ ["--", template]) = .ok invocation
  bare : invocation.subjects = []
  noFile : invocation.file = none

/-- A run of the program is offered subjects in one of several ways: as arguments behind the
template, as the lines of a file, or as the lines of the standard input, which a hyphen in place of
a file may ask for. Options that name a file stand behind the first of the other options. -/
inductive Offers (first rest : List String) (template : String) (subjects : List String) :
    Environment → List String → Prop
  | arguments (environment : Environment) :
    Offers first rest template subjects environment
      (first ++ rest ++ "--" :: template :: subjects)
  | file {environment : Environment} {path text : String} {option : List String}
      (filled : path ≠ "") (isFile : Path.components path ≠ Path.components "-")
      (spells : Spells .file path option)
      (reads : environment.readFile path = .ok text.toUTF8) (holds : HoldsLines text subjects) :
    Offers first rest template subjects environment
      (first ++ option ++ rest ++ ["--", template])
  | input {environment : Environment} {text : String}
      (reads : environment.standardInput = text.toUTF8) (holds : HoldsLines text subjects) :
    Offers first rest template subjects environment (first ++ rest ++ ["--", template])
  | hyphen {environment : Environment} {text : String} {option : List String}
      (spells : Spells .file "-" option)
      (reads : environment.standardInput = text.toUTF8) (holds : HoldsLines text subjects) :
    Offers first rest template subjects environment
      (first ++ option ++ rest ++ ["--", template])

/-- Every file of a tree can hold the subjects, but for one that is named by a hyphen. -/
theorem Offers.ofTree {first rest subjects option : List String} {template path text : String}
    {environment : Environment} {tree : FileTree} (files : environment.readFile = tree.read)
    (named : path ≠ "-") (spells : Spells .file path option)
    (read : tree.read path = .ok text.toUTF8) (holds : HoldsLines text subjects) :
    Offers first rest template subjects environment
      (first ++ option ++ rest ++ ["--", template]) := by
  have filled : path ≠ "" := by
    rintro rfl
    have directory : tree.read "" = .error .isDirectory := rfl
    exact nomatch directory.symm.trans read
  exact .file filled (fun same => named (FileTree.eq_hyphen_of_read_eq_ok same read)) spells
    ((congrFun files path).trans read) holds

/-- The same invocation but for where its subjects come from. -/
def Invocation.withSource (invocation : Invocation) (subjects : List String)
    (file : Option String) : Invocation :=
  { invocation with subjects, file }

/-! ## Options -/

namespace AreOptions

variable {options first rest : List String} {template : String} {invocation : Invocation}

theorem unclosed (are : AreOptions options template invocation) : "--" ∉ options := by
  intro closed
  obtain ⟨_, other, subjects, texts, rfl⟩ := Invocation.ofArguments_eq_ok_iff.mp are.accepted
  rw [ofTexts_append_of_mem closed, positionals_append, positionals_map] at texts
  have bare : subjects = [] := are.bare
  have lengths := congrArg List.length texts
  simp [bare] at lengths

/-- The clauses of options are accepted, and no positional argument is among them. -/
theorem clauses_eq (are : AreOptions options template invocation) :
    positionals (ofTexts options) = [] ∧ IsAccepted (ofTexts options) ∧
      Invocation.ofClauses template [] (ofTexts options) = invocation := by
  obtain ⟨accepted, other, subjects, texts, rfl⟩ := Invocation.ofArguments_eq_ok_iff.mp are.accepted
  obtain rfl : subjects = [] := are.bare
  rw [ofTexts_append_separator are.unclosed] at accepted texts ⊢
  rw [positionals_append, positionals_map] at texts
  have lengths := congrArg List.length texts
  have bare : positionals (ofTexts options) = [] := by simpa using lengths
  rw [bare] at texts
  cases texts
  exact ⟨bare, ((isAccepted_append_iff bare [template]).mp accepted).1,
    (Invocation.ofClauses_append _ _).symm⟩

theorem values_file (are : AreOptions options template invocation) :
    values .file (ofTexts options) = [] := by
  have noFile := are.noFile
  rw [← are.clauses_eq.2.2] at noFile
  exact List.getLast?_eq_none_iff.mp noFile

theorem gives_file (are : AreOptions options template invocation) :
    gives .file (ofTexts options) = false :=
  (gives_eq_false_iff isNamed_ofTexts rfl).mpr are.values_file

/-- Options do not end with one that waits for its value. -/
theorem complete (are : AreOptions options template invocation) (option : Parameter) :
    (Lexeme.ofTexts options).getLast? ≠ some (.awaiting option) := by
  intro waits
  obtain ⟨error, member⟩ := fault_mem_ofLexemes waits
  exact are.clauses_eq.2.1.sound _ member

/-- Positional arguments behind two hyphens are the template and the subjects. -/
theorem ofArguments_append (are : AreOptions options template invocation) (subjects : List String) :
    Invocation.ofArguments (options ++ "--" :: template :: subjects) =
      .ok (invocation.withSource subjects none) := by
  have noFile := are.noFile
  obtain ⟨bare, accepted, rfl⟩ := are.clauses_eq
  have same : Invocation.ofClauses template subjects (ofTexts options) =
      (Invocation.ofClauses template [] (ofTexts options)).withSource subjects none := by
    rw [← noFile]
    rfl
  rw [Invocation.ofArguments_eq_ok_iff, ofTexts_append_separator are.unclosed]
  refine ⟨?_, template, subjects, ?_, (Invocation.ofClauses_append _ _).trans same⟩
  · refine (isAccepted_append_iff bare _).mpr ⟨accepted, fun file => ?_⟩
    exact absurd (are.gives_file.symm.trans file) (by decide)
  · rw [positionals_append, positionals_map, bare, List.nil_append]

/-- A file can be named behind some of the options. -/
theorem ofArguments_insert {before : Invocation} {path : String} {option : List String}
    (are : AreOptions (first ++ rest) template invocation)
    (areFirst : AreOptions first template before) (filled : path ≠ "")
    (spells : Spells .file path option) :
    Invocation.ofArguments (first ++ option ++ rest ++ ["--", template]) =
      .ok (invocation.withSource [] (some path)) := by
  obtain ⟨bare, accepted, rfl⟩ := are.clauses_eq
  have unclosed : "--" ∉ rest := fun closed => are.unclosed (List.mem_append_right _ closed)
  have joined : ofTexts (first ++ rest) = ofTexts first ++ ofTexts rest :=
    ofTexts_append areFirst.unclosed areFirst.complete
  have noFile := are.gives_file
  have noValue := are.values_file
  have inserted : ofTexts (first ++ option ++ rest ++ ["--", template]) =
      ofTexts first ++ .value .file path :: ofTexts rest ++ [template].map positional := by
    rw [List.append_assoc, List.append_assoc,
      ofTexts_insert areFirst.unclosed areFirst.complete rfl spells,
      ofTexts_append_separator unclosed, List.append_assoc, List.cons_append]
  rw [joined] at bare accepted noFile noValue ⊢
  have noValue' : values .file (ofTexts rest) = [] :=
    (List.append_eq_nil_iff.mp ((values_append _ _ _).symm.trans noValue)).2
  have bare' : positionals (ofTexts first ++ .value .file path :: ofTexts rest) = [] := by
    rw [List.append_cons, positionals_append, positionals_append, positionals_singleton]
    simpa [positional?] using bare
  rw [Invocation.ofArguments_eq_ok_iff, inserted]
  refine ⟨?_, template, [], ?_, ?_⟩
  · have inserted := accepted.insert_file bare noFile filled
    exact (isAccepted_append_iff bare' _).mpr ⟨inserted, fun _ => rfl⟩
  · rw [positionals_append, positionals_map, bare', List.nil_append]
  · rw [Invocation.ofClauses_append, Invocation.ofClauses_insert_file noValue']
    rfl

end AreOptions

/-! ## Runs -/

section Runs

variable {first rest : List String} {template : String} {invocation before : Invocation}
  {subjects : List String} {environment other : Environment} {arguments arguments' : List String}

/-- Where the subjects come from matters only for which they are. -/
theorem runInvocation_withSource {named named' : List String} {file file' : Option String}
    (log : environment.logFilter = other.logFilter)
    (colors : environment.takesColors = other.takesColors)
    (reads : Subjects.ofSource environment (invocation.withSource named file).source = .ok subjects)
    (reads' : Subjects.ofSource other (invocation.withSource named' file').source = .ok subjects) :
    runInvocation environment (invocation.withSource named file) =
      runInvocation other (invocation.withSource named' file') := by
  have performed : perform environment (invocation.withSource named file) =
      perform other (invocation.withSource named' file') := by
    simp only [perform, reads, reads']
    rfl
  simp only [runInvocation, performed, log, colors]
  rfl

theorem ofRead_of_holdsLines {path text : String} (holds : HoldsLines text subjects)
    (areLines : ∀ subject ∈ subjects, IsLine subject) :
    Subjects.ofRead path (.ok text.toUTF8) = .ok subjects := by
  simp only [Subjects.ofRead, Subjects.ofBytes?_of_holdsLines holds areLines]

/-- However subjects are offered, the command line asks for an invocation that reads them. -/
theorem Offers.reads (offers : Offers first rest template subjects environment arguments)
    (are : AreOptions (first ++ rest) template invocation)
    (areFirst : AreOptions first template before) (areLines : ∀ subject ∈ subjects, IsLine subject)
    (filled : subjects ≠ []) :
    ∃ named file, Invocation.ofArguments arguments = .ok (invocation.withSource named file) ∧
      Subjects.ofSource environment (invocation.withSource named file).source = .ok subjects := by
  cases offers with
  | arguments =>
    refine ⟨subjects, none, are.ofArguments_append subjects, ?_⟩
    have source : (invocation.withSource subjects none).source = .arguments subjects := by
      simp [Invocation.withSource, Invocation.source, filled]
    rw [source]
    rfl
  | @file path text option named isFile spells reads holds =>
    refine ⟨[], some path, are.ofArguments_insert areFirst named spells, ?_⟩
    have source : (invocation.withSource [] (some path)).source = .file path := by
      simp [Invocation.withSource, Invocation.source, isFile]
    rw [source, Subjects.ofSource, reads]
    exact ofRead_of_holdsLines holds areLines
  | input reads holds =>
    refine ⟨[], none, are.ofArguments_append [], ?_⟩
    have source : (invocation.withSource [] none).source = .standardInput := rfl
    rw [source, Subjects.ofSource, reads]
    exact ofRead_of_holdsLines holds areLines
  | @hyphen text option spells reads holds =>
    refine ⟨[], some "-", are.ofArguments_insert areFirst (by decide) spells, ?_⟩
    have source : (invocation.withSource [] (some "-")).source = .standardInput := rfl
    rw [source, Subjects.ofSource, reads]
    exact ofRead_of_holdsLines holds areLines

/-- A run is the same in whatever way it is offered subjects that are lines. -/
theorem run_eq_of_offers (are : AreOptions (first ++ rest) template invocation)
    (areFirst : AreOptions first template before) (areLines : ∀ subject ∈ subjects, IsLine subject)
    (filled : subjects ≠ [])
    (offers : Offers first rest template subjects environment arguments)
    (offers' : Offers first rest template subjects other arguments')
    (log : environment.logFilter = other.logFilter)
    (colors : environment.takesColors = other.takesColors) :
    run environment arguments = run other arguments' := by
  obtain ⟨_, _, asked, reads⟩ := offers.reads are areFirst areLines filled
  obtain ⟨_, _, asked', reads'⟩ := offers'.reads are areFirst areLines filled
  rw [run, run, asked, asked']
  exact runInvocation_withSource log colors reads reads'

/-- Some subjects are given as arguments and in a file; one is empty, and one looks like an option
and has a carriage return in it. -/
theorem run_eq_of_offers_file :
    run ⟨ByteArray.empty, fun _ => .error .missing, some "debug", false⟩
        ["-r", "ab=\\d+", "--json", "--", "#{ab}#", "#12#", "", "-x\rß"] =
      run ⟨ByteArray.empty, fun _ => .ok "#12#\n\n-x\rß".toUTF8, some "debug", false⟩
        ["-r", "ab=\\d+", "--file=subjects.txt", "--json", "--", "#{ab}#"] := by
  have named : Parameter.ofLongName? "file" = some .file := rfl
  have spells : Spells .file "subjects.txt" ["--file=subjects.txt"] := .long named
  have text : "#12#\n\n-x\rß" = "#12#" ++ "\n" ++ ("" ++ "\n" ++ "-x\rß") := rfl
  have holds : HoldsLines "#12#\n\n-x\rß" ["#12#", "", "-x\rß"] := by
    rw [text]
    exact .cons "#12#" (.cons "" (.last (by decide)))
  have are : AreOptions (["-r", "ab=\\d+"] ++ ["--json"]) "#{ab}#"
      ⟨"#{ab}#", [], [⟨"ab", "\\d+"⟩], [], none, true, false, false, false⟩ := ⟨rfl, rfl, rfl⟩
  have areFirst : AreOptions ["-r", "ab=\\d+"] "#{ab}#"
      ⟨"#{ab}#", [], [⟨"ab", "\\d+"⟩], [], none, false, false, false, false⟩ := ⟨rfl, rfl, rfl⟩
  exact run_eq_of_offers are areFirst (by decide) (by decide) (.arguments _)
    (.file (by decide) (by decide) spells rfl holds) rfl rfl

end Runs

end TextTemplate.CommandLine
