import TextTemplate.Proofs.CommandLine.Subjects

/-!
# Subjects out of bytes

Each line is checked on its own, but what can be read is exactly what spells a text as a whole: a
line end is spelled by bytes that belong to no other sign, so that no sign reaches over the end of a
line. The subjects are the lines that this text is made of. -/

namespace TextTemplate.CommandLine

/-- The bytes that subjects are read from: those of a file that can be read, or those of the
standard input. -/
def Environment.bytes? (environment : Environment) : SubjectSource → Option ByteArray
  | .arguments _ => none
  | .file path => (environment.readFile path).toOption
  | .standardInput => some environment.standardInput

namespace Subjects

open Text

/-! ## Bytes of texts -/

theorem bytes_append (first rest : String) : bytes (first ++ rest) = bytes first ++ bytes rest := by
  simp [bytes_eq_flatMap]

theorem decode?_eq_some_iff {line : List UInt8} {text : String} :
    decode? line = some text ↔ line = bytes text := by
  constructor
  · intro decoded
    unfold decode? String.fromUTF8? at decoded
    split at decoded
    · next valid =>
      cases decoded
      rw [bytes, toList_eq_toList_data]
      rfl
    · contradiction
  · rintro rfl
    rw [bytes_eq_flatMap, decode?_flatMap, String.ofList_toList]

/-- Bytes spell a text if each of their lines does. -/
theorem exists_eq_bytes {code : List UInt8} {lines : List (List UInt8)}
    (made : Lines.IsMadeOf 0x0A 0x0D code lines)
    (texts : ∀ line ∈ lines, ∃ text, line = bytes text) : ∃ text, code = bytes text := by
  have feed : bytes "\n" = [0x0A] := by simp [bytes_eq_flatMap]; decide
  have returnFeed : bytes "\r\n" = [0x0D, 0x0A] := by simp [bytes_eq_flatMap]; decide
  induction made with
  | nil => exact ⟨"", by simp [bytes_eq_flatMap]⟩
  | last unmarked filled => exact texts _ (List.mem_singleton.mpr rfl)
  | feed unmarked bare _ ih =>
    obtain ⟨⟨line, rfl⟩, others⟩ := List.forall_mem_cons.mp texts
    obtain ⟨rest, rfl⟩ := ih others
    exact ⟨line ++ "\n" ++ rest, by simp [bytes_append, feed]⟩
  | returnFeed unmarked _ ih =>
    obtain ⟨⟨line, rfl⟩, others⟩ := List.forall_mem_cons.mp texts
    obtain ⟨rest, rfl⟩ := ih others
    exact ⟨line ++ "\r\n" ++ rest, by simp [bytes_append, returnFeed]⟩

theorem eq_toUTF8_iff {code : ByteArray} {text : String} :
    code = text.toUTF8 ↔ code.toList = bytes text := by
  constructor
  · rintro rfl
    rfl
  · intro same
    rw [bytes, toList_eq_toList_data, toList_eq_toList_data, Array.toList_inj] at same
    exact ByteArray.ext same

theorem isValidUTF8_iff {code : ByteArray} :
    code.IsValidUTF8 ↔ ∃ text : String, code = text.toUTF8 := by
  constructor
  · intro valid
    exact ⟨.fromUTF8 code valid, rfl⟩
  · rintro ⟨text, rfl⟩
    exact text.isValidUTF8

/-! ## Lines of decoded bytes -/

theorem mem_of_mapM_eq_some {Line : Type} {decode : Line → Option String} {lines : List Line}
    {texts : List String} (decoded : lines.mapM decode = some texts) :
    ∀ line ∈ lines, ∃ text, decode line = some text := by
  induction lines generalizing texts with
  | nil => exact fun _ member => absurd member List.not_mem_nil
  | cons line lines ih =>
    rw [List.mapM_cons] at decoded
    obtain ⟨text, first, decoded⟩ := Option.bind_eq_some_iff.mp decoded
    obtain ⟨others, rest, _⟩ := Option.bind_eq_some_iff.mp decoded
    exact List.forall_mem_cons.mpr ⟨⟨text, first⟩, ih rest⟩

/-- The lines that a text is made of are its lines. -/
theorem ofText_of_isMadeOf {text : String} {subjects : List String}
    (made : Lines.IsMadeOf '\n' '\r' text.toList (subjects.map String.toList)) :
    ofText text = subjects := by
  rw [ofText, made.split_eq (by decide), List.map_map]
  simp [Function.comp_def]

theorem isMadeOf_ofText (text : String) :
    Lines.IsMadeOf '\n' '\r' text.toList ((ofText text).map String.toList) := by
  rw [ofText, List.map_map]
  simpa [Function.comp_def] using Lines.isMadeOf_split text.toList

/-- Subjects are read from bytes exactly if these spell a text that is made of the subjects. -/
theorem ofBytes?_eq_some_iff {code : ByteArray} {subjects : List String} :
    ofBytes? code = some subjects ↔ ∃ text : String, code = text.toUTF8 ∧
      Lines.IsMadeOf '\n' '\r' text.toList (subjects.map String.toList) := by
  constructor
  · intro read
    have texts : ∀ line ∈ Lines.split 0x0A 0x0D code.toList, ∃ text, line = bytes text := by
      intro line member
      obtain ⟨text, decoded⟩ := mem_of_mapM_eq_some read line member
      exact ⟨text, decode?_eq_some_iff.mp decoded⟩
    obtain ⟨text, spelled⟩ := exists_eq_bytes (Lines.isMadeOf_split code.toList) texts
    obtain rfl := eq_toUTF8_iff.mpr spelled
    rw [ofBytes?_toUTF8, Option.some_inj] at read
    exact ⟨text, rfl, read ▸ isMadeOf_ofText text⟩
  · rintro ⟨text, rfl, made⟩
    rw [ofBytes?_toUTF8, ofText_of_isMadeOf made]

/-! ## Texts written line by line -/

theorem isMadeOf_returnFeeds {texts : List String} (unmarked : ∀ text ∈ texts, '\n' ∉ text.toList) :
    Lines.IsMadeOf '\n' '\r' (String.join (texts.map (· ++ "\r\n"))).toList
      (texts.map String.toList) := by
  induction texts with
  | nil => exact .nil
  | cons text texts ih =>
    rw [List.forall_mem_cons] at unmarked
    simpa using Lines.IsMadeOf.returnFeed unmarked.1 (ih unmarked.2)

theorem isMadeOf_feeds {texts : List String} (areLines : ∀ text ∈ texts, IsLine text) :
    Lines.IsMadeOf '\n' '\r' (String.join (texts.map (· ++ "\n"))).toList
      (texts.map String.toList) := by
  induction texts with
  | nil => exact .nil
  | cons text texts ih =>
    rw [List.forall_mem_cons] at areLines
    simpa using Lines.IsMadeOf.feed areLines.1.1 areLines.1.2 (ih areLines.2)

/-! ## Sources of bytes -/

theorem ofSource_eq_ok_iff {environment : Environment} {source : SubjectSource} {code : ByteArray}
    (given : environment.bytes? source = some code) (subjects : List String) :
    ofSource environment source = .ok subjects ↔ ofBytes? code = some subjects := by
  have ofRead_iff : ∀ path : String,
      ofRead path (.ok code) = .ok subjects ↔ ofBytes? code = some subjects := by
    intro path
    rw [ofRead]
    cases ofBytes? code <;> simp
  cases source with
  | arguments => cases given
  | file path =>
    cases read : environment.readFile path with
    | error fault =>
      rw [Environment.bytes?, read] at given
      cases given
    | ok found =>
      rw [Environment.bytes?, read] at given
      cases given
      rw [ofSource, read, ofRead_iff]
  | standardInput =>
    cases given
    exact ofRead_iff "<stdin>"

/-- Subjects can be read from bytes exactly if all these bytes together are valid. They are the
lines that the decoded text is made of, and none of them has a line feed in it. Texts without line
feeds are read back if each of them is written with a carriage return and a line feed behind it, or,
if none of them ends with a carriage return, with a line feed behind it. -/
theorem ofSource_eq_ok_iff_isMadeOf {environment : Environment} {source : SubjectSource}
    {code : ByteArray} (given : environment.bytes? source = some code) :
    ((∃ subjects, ofSource environment source = .ok subjects) ↔ code.IsValidUTF8) ∧
      (∀ subjects, ofSource environment source = .ok subjects ↔
        ∃ text : String, code = text.toUTF8 ∧
          Lines.IsMadeOf '\n' '\r' text.toList (subjects.map String.toList)) ∧
      (∀ subjects, ofSource environment source = .ok subjects →
        ∀ subject ∈ subjects, '\n' ∉ subject.toList) ∧
      (∀ texts : List String, (∀ text ∈ texts, '\n' ∉ text.toList) →
        code = (String.join (texts.map (· ++ "\r\n"))).toUTF8 →
          ofSource environment source = .ok texts) ∧
      ∀ texts : List String, (∀ text ∈ texts, '\n' ∉ text.toList) →
        (∀ text ∈ texts, text.toList.getLast? ≠ some '\r') →
          code = (String.join (texts.map (· ++ "\n"))).toUTF8 →
            ofSource environment source = .ok texts := by
  have read : ∀ subjects, ofSource environment source = .ok subjects ↔
      ∃ text : String, code = text.toUTF8 ∧
        Lines.IsMadeOf '\n' '\r' text.toList (subjects.map String.toList) := by
    intro subjects
    rw [ofSource_eq_ok_iff given, ofBytes?_eq_some_iff]
  refine ⟨?_, read, ?_, ?_, ?_⟩
  · rw [isValidUTF8_iff]
    constructor
    · rintro ⟨subjects, found⟩
      obtain ⟨text, spelled, _⟩ := (read subjects).mp found
      exact ⟨text, spelled⟩
    · rintro ⟨text, spelled⟩
      exact ⟨ofText text, (read _).mpr ⟨text, spelled, isMadeOf_ofText text⟩⟩
  · intro subjects found subject member
    obtain ⟨text, _, made⟩ := (read subjects).mp found
    exact made.not_mem _ (List.mem_map_of_mem member)
  · intro texts unmarked spelled
    exact (read texts).mpr ⟨_, spelled, isMadeOf_returnFeeds unmarked⟩
  · intro texts unmarked bare spelled
    exact (read texts).mpr ⟨_, spelled, isMadeOf_feeds fun text member =>
      ⟨unmarked text member, bare text member⟩⟩

/-- One of two carriage returns is kept, an empty line is a subject, and the last part keeps its
carriage return. Nothing is read from bytes that end within a sign. -/
theorem ofSource_eq_ok_iff_isMadeOf_mixed :
    let environment : Environment :=
      ⟨"é\r\r\n\nx\r".toUTF8, fun _ => .ok ⟨#[0x61, 0x0A, 0xC3]⟩, none, false⟩
    environment.bytes? .standardInput = some "é\r\r\n\nx\r".toUTF8 ∧
      ofSource environment .standardInput = .ok ["é\r", "", "x\r"] ∧
      environment.bytes? (.file "broken") = some ⟨#[0x61, 0x0A, 0xC3]⟩ ∧
      ¬ ∃ subjects, ofSource environment (.file "broken") = .ok subjects := by
  intro environment
  have made : Lines.IsMadeOf '\n' '\r' "é\r\r\n\nx\r".toList
      (["é\r", "", "x\r"].map String.toList) :=
    Lines.IsMadeOf.returnFeed (by decide : '\n' ∉ ['é', '\r'])
      (Lines.IsMadeOf.feed List.not_mem_nil (by decide) (.last (by decide) (by decide)))
  have standardInput : environment.bytes? .standardInput = some "é\r\r\n\nx\r".toUTF8 := rfl
  have file : environment.bytes? (.file "broken") = some ⟨#[0x61, 0x0A, 0xC3]⟩ := rfl
  have valid := ofSource_eq_ok_iff_isMadeOf standardInput
  have broken := ofSource_eq_ok_iff_isMadeOf file
  refine ⟨standardInput, (valid.2.1 _).mpr ⟨_, rfl, made⟩, file, ?_⟩
  rw [broken.1]
  decide +kernel

end Subjects

end TextTemplate.CommandLine
