import TextTemplate.Proofs.CommandLine.Spelling

/-!
# Writing clauses

Each clause of a command line is written as a group of arguments: a flag by its long or its short
name, an option with its value in one of several ways, and a positional argument as it stands.
Groups are read one by one, so that a command line made of groups has the clauses that they
write. -/

namespace TextTemplate.CommandLine

namespace Clause

/-- Arguments that write a clause before the two hyphens that end the options: the long or short
name of a flag, an option with its value, or a positional argument that does not look like an
option. -/
inductive Writes : Clause → List String → Prop
  | long {option : Parameter} {name : String} (named : Parameter.ofLongName? name = some option)
      (needless : option.takesValue = false) : Writes (.flag option) ["--" ++ name]
  | short {option : Parameter} {letter : Char}
      (named : Parameter.ofShortName? letter = some option)
      (needless : option.takesValue = false) :
      Writes (.flag option) ["-" ++ String.singleton letter]
  | value {option : Parameter} {text : String} {texts : List String}
      (takes : option.takesValue = true) (spells : Spells option text texts) :
      Writes (.value option text) texts
  | positional {text : String} (plain : IsPlain text) : Writes (.positional text) [text]

/-- Arguments that write some clauses, group by group. -/
inductive WritesAll : List Clause → List String → Prop
  | nil : WritesAll [] []
  | cons {clause : Clause} {clauses : List Clause} {group texts : List String}
      (writes : Writes clause group) (others : WritesAll clauses texts) :
      WritesAll (clause :: clauses) (group ++ texts)

variable {clause : Clause} {clauses others : List Clause} {texts rest : List String}

/-- A group is read as the clause that it writes. -/
theorem Writes.ofTexts (writes : Writes clause texts) (rest : List String) :
    Clause.ofTexts (texts ++ rest) = clause :: Clause.ofTexts rest := by
  cases writes with
  | @long option name named needless =>
    have form : ("--" ++ name).toList = '-' :: '-' :: name.toList := by simp
    rw [Clause.ofTexts, List.singleton_append,
      Lexeme.ofTexts_of_long form (Lexeme.longName_letters named).1, Lexeme.ofLong_of_named named,
      needless]
    rfl
  | @short option letter named needless =>
    have form : ("-" ++ String.singleton letter).toList = ['-', letter] := by simp
    have read : Lexeme.ofShort [letter] = [.flag option] := by
      simp [Lexeme.ofShort, named, needless]
    rw [Clause.ofTexts, List.singleton_append, Lexeme.ofTexts_of_short form named, read]
    rfl
  | value takes spells =>
    rcases Lexeme.ofTexts_of_spells takes spells rest with form | form <;>
      rw [Clause.ofTexts, form] <;> rfl
  | positional plain =>
    rw [Clause.ofTexts, List.singleton_append,
      Lexeme.ofTexts_cons_of_ne (Lexeme.ne_separator_of_isPlain plain),
      Lexeme.ofText_of_isPlain plain]
    rfl

namespace WritesAll

/-- Groups are read as the clauses that they write. -/
theorem ofTexts (writes : WritesAll clauses texts) (rest : List String) :
    Clause.ofTexts (texts ++ rest) = clauses ++ Clause.ofTexts rest := by
  induction writes with
  | nil => rfl
  | cons first _ ih => rw [List.append_assoc, first.ofTexts, ih, List.cons_append]

/-- Nothing else is read of groups alone. -/
theorem ofTexts_eq (writes : WritesAll clauses texts) : Clause.ofTexts texts = clauses := by
  have read := writes.ofTexts []
  have nothing : Clause.ofTexts [] = [] := rfl
  rwa [nothing, List.append_nil, List.append_nil] at read

theorem append (writes : WritesAll clauses texts) (behind : WritesAll others rest) :
    WritesAll (clauses ++ others) (texts ++ rest) := by
  induction writes with
  | nil => exact behind
  | cons first _ ih =>
    rw [List.append_assoc]
    exact .cons first ih

theorem map {α : Type} {clauseOf : α → Clause} {textOf : α → String}
    (writes : ∀ item, Writes (clauseOf item) [textOf item]) (items : List α) :
    WritesAll (items.map clauseOf) (items.map textOf) := by
  induction items with
  | nil => exact .nil
  | cons item items ih => exact .cons (writes item) ih

theorem flatMap {α : Type} {clausesOf : α → List Clause} {textsOf : α → List String}
    (writes : ∀ item, WritesAll (clausesOf item) (textsOf item)) (items : List α) :
    WritesAll (items.flatMap clausesOf) (items.flatMap textsOf) := by
  induction items with
  | nil => exact .nil
  | cons item items ih => exact (writes item).append ih

end WritesAll

end Clause

end TextTemplate.CommandLine
