import TextTemplate.Proofs.CommandLine.Items
import TextTemplate.Proofs.CommandLine.Printing
import TextTemplate.Proofs.Text.Lines

/-!
# Reading listings

What is printed for people is a listing: a heading for each subject, and below it an entry for each
value. A listing is read line by line, and each entry belongs to the heading before it. As long as
no text has a line feed and no name an equals sign, the results are read back, whatever else the
texts look like. -/

namespace TextTemplate.CommandLine

open Text

namespace Listing

/-- A line of a listing: a sign for the result of a subject, or a name with its value. -/
inductive Line
  | heading (isMatched : Bool) (subject : String)
  | entry (name value : String)

/-- What a listing tells of a subject. The entries stand in the order of the lines. -/
structure Record where
  subject : String
  isMatched : Bool
  entries : List (String × String)

/-- Reads an entry: the first equals sign ends the name, and there is a blank on either side of
it. -/
def readEntry? (text : List Char) : Option Line :=
  match Assignment.splitAtEquals? text with
  | some (name, ' ' :: value) =>
    if name.getLast? = some ' ' then some (.entry (.ofList name.dropLast) (.ofList value)) else none
  | _ => none

def readLine? : List Char → Option Line
  | '✓' :: ' ' :: subject => some (.heading true (.ofList subject))
  | '✗' :: ' ' :: subject => some (.heading false (.ofList subject))
  | ' ' :: ' ' :: ' ' :: ' ' :: text => readEntry? text
  | _ => none

/-- The entries before the first heading, and the records that the headings open. -/
def gather : List Line → List (String × String) × List Record
  | [] => ([], [])
  | .heading isMatched subject :: lines =>
    ([], ⟨subject, isMatched, (gather lines).1⟩ :: (gather lines).2)
  | .entry name value :: lines => ((name, value) :: (gather lines).1, (gather lines).2)

/-- The records of lines that start with a heading. -/
def records? (lines : List Line) : Option (List Record) :=
  if (gather lines).1 = [] then some (gather lines).2 else none

/-- Reads a listing, whose lines are all ended by a line feed. -/
def read? (text : String) : Option (List Record) :=
  if (cut '\n' text.toList).getLast? = some [] then
    ((cut '\n' text.toList).dropLast.mapM readLine?).bind records?
  else none

def codePoints (text : String) : List Nat := text.toList.map Char.toNat

/-- A record tells the result for a subject: its entries are the values of a match, each of them
once, in ascending order of the code points of their names. -/
structure Record.Tells (record : Record) (subject : String) (result : MatchResult) : Prop where
  subject : record.subject = subject
  matched : record.isMatched = result.isMatched
  values : ∀ name value, (name, value) ∈ record.entries ↔
    ∃ values, result.values? = some values ∧ values.find? name = some value
  ascending : record.entries.Pairwise fun entry next => codePoints entry.1 < codePoints next.1

/-- A result that can be read back: there is no line feed in its texts, and no equals sign in the
names. -/
structure IsReadable (subject : String) (result : MatchResult) : Prop where
  subject : '\n' ∉ subject.toList
  values : ∀ values, result.values? = some values → ∀ name value, values.find? name = some value →
    ('\n' ∉ name.toList ∧ '=' ∉ name.toList) ∧ '\n' ∉ value.toList

/-! ## Printed lines -/

def Line.text : Line → List Char
  | heading isMatched subject => (if isMatched then '✓' else '✗') :: ' ' :: subject.toList
  | entry name value =>
    ' ' :: ' ' :: ' ' :: ' ' :: (name.toList ++ ' ' :: '=' :: ' ' :: value.toList)

def Line.IsReadable : Line → Prop
  | heading _ subject => '\n' ∉ subject.toList
  | entry name value => ('\n' ∉ name.toList ∧ '=' ∉ name.toList) ∧ '\n' ∉ value.toList

def lines (subject : String) : MatchResult → List Line
  | .unmatched => [.heading false subject]
  | .matched values =>
    .heading true subject :: values.entries.map fun (name, value) => .entry name value

theorem Line.IsReadable.readLine?_text {line : Line} (readable : line.IsReadable) :
    readLine? line.text = some line := by
  cases line with
  | heading isMatched subject =>
    cases isMatched <;> simp [Line.text, readLine?]
  | entry name value =>
    have marked : '=' ∉ name.toList ++ [' '] := by simp [readable.1.2]
    have split : Assignment.splitAtEquals? (name.toList ++ ' ' :: '=' :: ' ' :: value.toList) =
        some (name.toList ++ [' '], ' ' :: value.toList) :=
      Assignment.splitAtEquals?_eq_some_iff.mpr ⟨by simp, marked⟩
    simp [Line.text, readLine?, readEntry?, split]

theorem Line.IsReadable.feed_not_mem_text {line : Line} (readable : line.IsReadable) :
    '\n' ∉ line.text := by
  cases line with
  | heading isMatched subject =>
    have subject' : '\n' ∉ subject.toList := readable
    cases isMatched <;> simp [Line.text, subject']
  | entry name value => simp [Line.text, readable.1.1, readable.2]

theorem toList_human (subject : String) (result : MatchResult) :
    ((Output.human subject result.entries?).flatMap fun fragment =>
        (fragment.render false).toList) =
      (lines subject result).flatMap fun line => line.text ++ ['\n'] := by
  cases result with
  | unmatched => simp [Output.human, Fragment.styled, Fragment.render, lines, Line.text]
  | matched values =>
    simp [Output.human, Output.humanValue, Fragment.styled, Fragment.render, lines, Line.text,
      List.flatMap_map, List.flatMap_assoc]

/-! ## Records -/

def Record.ofResult (subject : String) (result : MatchResult) : Record :=
  ⟨subject, result.isMatched, match result.values? with
    | some values => values.entries
    | none => []⟩

theorem gather_entries (entries : List (String × String)) (lines : List Line) :
    gather ((entries.map fun (name, value) => .entry name value) ++ lines) =
      (entries ++ (gather lines).1, (gather lines).2) := by
  induction entries with
  | nil => rfl
  | cons entry entries ih =>
    rw [List.map_cons, List.cons_append, gather, ih]
    rfl

/-- The lines of a result make its record, if those behind them start with a heading. -/
theorem gather_lines_append (subject : String) (result : MatchResult) {others : List Line}
    (opened : (gather others).1 = []) :
    gather (lines subject result ++ others) =
      ([], Record.ofResult subject result :: (gather others).2) := by
  cases result with
  | unmatched =>
    rw [lines, List.singleton_append, gather, opened]
    rfl
  | matched values =>
    rw [lines, List.cons_append, gather, gather_entries, opened, List.append_nil]
    rfl

theorem gather_flatMap_lines (pairs : List (String × MatchResult)) :
    gather (pairs.flatMap fun pair => lines pair.1 pair.2) =
      ([], pairs.map fun pair => Record.ofResult pair.1 pair.2) := by
  induction pairs with
  | nil => rfl
  | cons pair pairs ih =>
    have opened := congrArg Prod.fst ih
    rw [List.flatMap_cons, gather_lines_append pair.1 pair.2 opened, ih]
    rfl

theorem codePoints_lt {name other : String} (less : name < other) :
    codePoints name < codePoints other :=
  List.map_lt (fun _ _ => id) less

theorem tells_ofResult (subject : String) (result : MatchResult) :
    (Record.ofResult subject result).Tells subject result where
  subject := rfl
  matched := rfl
  values name value := by
    cases result with
    | unmatched => simp [Record.ofResult, MatchResult.values?]
    | matched values => simp [Record.ofResult, MatchResult.values?, Bindings.mem_entries_iff]
  ascending := by
    cases result with
    | unmatched => exact .nil
    | matched values => exact (List.pairwise_map.mp values.ascending).imp codePoints_lt

/-- A record tells one result for one subject. -/
theorem Record.Tells.unique {record : Record} {subject subject' : String}
    {result result' : MatchResult} (tells : record.Tells subject result)
    (tells' : record.Tells subject' result') : subject = subject' ∧ result = result' := by
  refine ⟨tells.subject.symm.trans tells'.subject, ?_⟩
  have matched := tells.matched.symm.trans tells'.matched
  cases result with
  | unmatched =>
    cases result' with
    | unmatched => rfl
    | matched values' => cases matched
  | matched values =>
    cases result' with
    | unmatched => cases matched
    | matched values' =>
      congr 1
      apply Bindings.ext_find?
      intro name
      ext value
      have told := tells.values name value
      rw [tells'.values name value] at told
      simpa [MatchResult.values?] using told.symm

/-! ## Listings -/

theorem isReadable_of_mem_lines {subject : String} {result : MatchResult}
    (readable : IsReadable subject result) : ∀ line ∈ lines subject result, line.IsReadable := by
  cases result with
  | unmatched => exact List.forall_mem_singleton.mpr readable.subject
  | matched values =>
    refine List.forall_mem_cons.mpr ⟨readable.subject, fun line member => ?_⟩
    obtain ⟨⟨name, value⟩, listed, rfl⟩ := List.mem_map.mp member
    exact readable.values values rfl name value (Bindings.mem_entries_iff.mp listed)

theorem mapM_readLine?_text {lines : List Line} (readable : ∀ line ∈ lines, line.IsReadable) :
    (lines.map Line.text).mapM readLine? = some lines := by
  induction lines with
  | nil => rfl
  | cons line lines ih =>
    rw [List.forall_mem_cons] at readable
    simp [readable.1.readLine?_text, ih readable.2]

/-- Lines that are each ended by a line feed are read as the records that they make. -/
theorem read?_of_toList_eq {text : String} {lines : List Line}
    (readable : ∀ line ∈ lines, line.IsReadable)
    (form : text.toList = lines.flatMap fun line => line.text ++ ['\n']) :
    read? text = records? lines := by
  have unfed : ∀ line ∈ lines.map Line.text, '\n' ∉ line := by
    intro line member
    obtain ⟨line, listed, rfl⟩ := List.mem_map.mp member
    exact (readable line listed).feed_not_mem_text
  have parts : cut '\n' text.toList = lines.map Line.text ++ [[]] := by
    rw [form, ← cut_ended unfed, List.flatMap_map]
  simp [read?, parts, mapM_readLine?_text readable]

theorem toList_print_human (pairs : List (String × MatchResult)) :
    (Output.print .human false (Output.results pairs)).toList =
      (pairs.flatMap fun pair => lines pair.1 pair.2).flatMap fun line => line.text ++ ['\n'] := by
  rw [Output.toList_print_results, List.flatMap_assoc]
  exact congrArg (List.flatMap · pairs) (funext fun pair => toList_human pair.1 pair.2)

/-- The listing of results is read as their records. -/
theorem read?_print_human {pairs : List (String × MatchResult)}
    (readable : ∀ pair ∈ pairs, IsReadable pair.1 pair.2) :
    read? (Output.print .human false (Output.results pairs)) =
      some (pairs.map fun pair => Record.ofResult pair.1 pair.2) := by
  have readable' : ∀ line ∈ pairs.flatMap fun pair => lines pair.1 pair.2, line.IsReadable := by
    intro line member
    obtain ⟨pair, listed, member⟩ := List.mem_flatMap.mp member
    exact isReadable_of_mem_lines (readable pair listed) line member
  rw [read?_of_toList_eq readable' (toList_print_human pairs), records?, gather_flatMap_lines,
    if_pos rfl]

/-! ## Maps -/

/-- A result whose values have been inserted one after the other. -/
def ofInsertions (insertions? : Option (List (String × String))) : MatchResult :=
  match insertions? with
  | some insertions => .matched (.ofList insertions)
  | none => .unmatched

/-- Insertions lead to the same map, in whatever order they come: each name gets the same value
last. -/
def MakeSameMap (insertions? others? : Option (List (String × String))) : Prop :=
  insertions?.isSome = others?.isSome ∧ ∀ insertions ∈ insertions?, ∀ others ∈ others?, ∀ name,
    insertions.reverse.lookup name = others.reverse.lookup name

theorem MakeSameMap.ofInsertions_eq {insertions? others? : Option (List (String × String))}
    (same : MakeSameMap insertions? others?) : ofInsertions insertions? = ofInsertions others? := by
  obtain ⟨present, values⟩ := same
  cases insertions? with
  | none =>
    cases others? with
    | none => rfl
    | some others => cases present
  | some insertions =>
    cases others? with
    | none => cases present
    | some others =>
      refine congrArg MatchResult.matched (Bindings.ext_find? fun name => ?_)
      rw [Bindings.find?_ofList_eq_last, Bindings.find?_ofList_eq_last]
      exact values insertions rfl others rfl name

/-- Insertions that lead to the same maps make the same results. -/
theorem map_ofInsertions {made others : List (String × Option (List (String × String)))}
    (same : List.Forall₂ (fun first second => first.1 = second.1 ∧ MakeSameMap first.2 second.2)
      made others) :
    (made.map fun first => (first.1, ofInsertions first.2)) =
      others.map fun second => (second.1, ofInsertions second.2) := by
  induction same with
  | nil => rfl
  | cons first _ ih => rw [List.map_cons, List.map_cons, ih, first.1, first.2.ofInsertions_eq]

/-- The listing of results that can be read back is read as records that tell them, in their order:
each value of a match is in exactly one entry, and the entries ascend by the code points of their
names. So no other such results have the same listing. The values of each match may come to be
printed in any order, and in every format the output depends on the maps alone: neither on that order
nor on the order of the insertions that have made the maps. -/
theorem read?_print_human_tells {items : List OutputItem} {pairs : List (String × MatchResult)}
    (lists : List.Forall₂ OutputItem.Lists items pairs)
    (readable : ∀ pair ∈ pairs, IsReadable pair.1 pair.2) :
    (∃ records, read? (Output.print .human false items) = some records ∧
      List.Forall₂ (fun record pair => record.Tells pair.1 pair.2) records pairs) ∧
      (∀ (otherItems : List OutputItem) (others : List (String × MatchResult)),
        List.Forall₂ OutputItem.Lists otherItems others →
        (∀ pair ∈ others, IsReadable pair.1 pair.2) →
        (Output.print .human false otherItems = Output.print .human false items ↔
          others = pairs)) ∧
      ∀ (format : Format) (color : Bool)
        (made others : List (String × Option (List (String × String))))
        (madeItems otherItems : List OutputItem),
        List.Forall₂ (fun first second => first.1 = second.1 ∧ MakeSameMap first.2 second.2)
          made others →
        List.Forall₂ OutputItem.Lists madeItems
          (made.map fun first => (first.1, ofInsertions first.2)) →
        List.Forall₂ OutputItem.Lists otherItems
          (others.map fun second => (second.1, ofInsertions second.2)) →
        Output.print format color madeItems = Output.print format color otherItems := by
  have read := read?_print_human readable
  rw [← Output.print_of_lists lists] at read
  refine ⟨⟨_, read, ?_⟩, fun otherItems others lists' readable' => ⟨fun same => ?_, ?_⟩, ?_⟩
  · rw [List.forall₂_map_left_iff, List.forall₂_same]
    exact fun pair _ => tells_ofResult pair.1 pair.2
  · have read' := read?_print_human readable'
    rw [← Output.print_of_lists lists', same, read, Option.some_inj] at read'
    refine List.map_injective_iff.mpr ?_ read'.symm
    intro pair other record
    have tells := tells_ofResult pair.1 pair.2
    have record' : Record.ofResult pair.1 pair.2 = Record.ofResult other.1 other.2 := record
    rw [record'] at tells
    obtain ⟨subjects, results⟩ := tells.unique (tells_ofResult other.1 other.2)
    exact Prod.ext subjects results
  · rintro rfl
    rw [Output.print_of_lists lists, Output.print_of_lists lists']
  · intro format color made others madeItems otherItems same madeLists otherLists
    rw [Output.print_of_lists madeLists, Output.print_of_lists otherLists, map_ofInsertions same]

/-- Subjects may start with a sign or like an entry, names may end with a blank, and values may have
equals signs. The values come in another order than that of their names. -/
theorem read?_print_human_tells_signs :
    let values : Bindings := .ofList [("b ", "= ✗"), ("a", "")]
    let pairs := [("✓ x", .matched values), ("    y = z", .unmatched)]
    let items : List OutputItem :=
      [.verdict "✓ x" (some [("b ", "= ✗"), ("a", "")]), .verdict "    y = z" none]
    List.Forall₂ OutputItem.Lists items pairs ∧ (∀ pair ∈ pairs, IsReadable pair.1 pair.2) ∧
      Output.print .human false items = "✓ ✓ x\n    a = \n    b  = = ✗\n✗     y = z\n" ∧
      ∃ records, read? "✓ ✓ x\n    a = \n    b  = = ✗\n✗     y = z\n" = some records ∧
        List.Forall₂ (fun record pair => record.Tells pair.1 pair.2) records pairs := by
  intro values pairs items
  have entries : ∀ entry ∈ values.entries,
      ('\n' ∉ entry.1.toList ∧ '=' ∉ entry.1.toList) ∧ '\n' ∉ entry.2.toList := by decide +kernel
  have first : IsReadable "✓ x" (.matched values) := by
    refine ⟨by decide, fun found given name value held => ?_⟩
    cases given
    exact entries (name, value) (Bindings.mem_entries_iff.mpr held)
  have second : IsReadable "    y = z" .unmatched := ⟨by decide, fun _ given => by cases given⟩
  have readable : ∀ pair ∈ pairs, IsReadable pair.1 pair.2 :=
    List.forall_mem_cons.mpr ⟨first, List.forall_mem_singleton.mpr second⟩
  have order : [("b ", "= ✗"), ("a", "")].Perm values.entries := by decide +kernel
  have lists : List.Forall₂ OutputItem.Lists items pairs :=
    .cons (.matched "✓ x" order) (.cons (.unmatched "    y = z") .nil)
  have printed : Output.print .human false items =
      "✓ ✓ x\n    a = \n    b  = = ✗\n✗     y = z\n" := by decide +kernel
  exact ⟨lists, readable, printed, printed ▸ (read?_print_human_tells lists readable).1⟩

end Listing

end TextTemplate.CommandLine
