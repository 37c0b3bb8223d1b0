import TextTemplate.CommandLine.Subjects
import TextTemplate.Proofs.Text.Encoding

/-!
# Reading subjects

Subjects are cut out of bytes before any of them is known to be a text. The bytes of a text are cut
into its lines all the same, because the bytes of a line feed and of a carriage return are in the
encoding of no other sign. A text that holds subjects line by line gives them back. -/

namespace TextTemplate.CommandLine

/-- A text holds some lines. Each of them is followed by a line feed, which may be missing behind
the last one if that is not empty. -/
inductive HoldsLines : String → List String → Prop
  | nil : HoldsLines "" []
  | last {line : String} (filled : line ≠ "") : HoldsLines line [line]
  | cons {rest : String} {lines : List String} (line : String) (holds : HoldsLines rest lines) :
      HoldsLines (line ++ "\n" ++ rest) (line :: lines)

/-- A text that comes through as a line: it has no line feed and does not end with a carriage
return. -/
def IsLine (text : String) : Prop := '\n' ∉ text.toList ∧ text.toList.getLast? ≠ some '\r'

instance (text : String) : Decidable (IsLine text) := inferInstanceAs (Decidable (_ ∧ _))

namespace Subjects

open Text

def ofText (text : String) : List String := (Lines.split '\n' '\r' text.toList).map String.ofList

theorem decode?_flatMap (line : List Char) :
    decode? (line.flatMap String.utf8EncodeChar) = some (String.ofList line) := by
  rw [← bytes_ofList, decode?, toByteArray_bytes, String.toUTF8_eq_toByteArray, String.fromUTF8?,
    dif_pos (String.isValidUTF8 _)]
  rfl

/-- The lines of a text are read from its bytes, whatever the text is. -/
theorem ofBytes?_toUTF8 (text : String) : ofBytes? text.toUTF8 = some (ofText text) := by
  have isFeed : IsCodeOf String.utf8EncodeChar '\n' 0x0A := isCodeOf_ascii '\n' (by decide)
  have isReturn : IsCodeOf String.utf8EncodeChar '\r' 0x0D := isCodeOf_ascii '\r' (by decide)
  have lines : Lines.split 0x0A 0x0D text.toUTF8.toList =
      (Lines.split '\n' '\r' text.toList).map (·.flatMap String.utf8EncodeChar) := by
    rw [← Lines.split_flatMap isFeed isReturn fun sign => String.utf8EncodeChar_ne_nil,
      ← bytes_eq_flatMap]
    rfl
  rw [ofBytes?, lines, ofText]
  induction Lines.split '\n' '\r' text.toList with
  | nil => rfl
  | cons line lines ih => simp [decode?_flatMap, ih]

/-- The lines that a text holds are its lines. -/
theorem ofText_of_holdsLines {text : String} {lines : List String} (holds : HoldsLines text lines)
    (areLines : ∀ line ∈ lines, IsLine line) : ofText text = lines := by
  induction holds with
  | nil => rfl
  | @last line filled =>
    have isLine := areLines line (List.mem_singleton.mpr rfl)
    have filled' : line.toList ≠ [] := fun empty => filled (String.toList_eq_nil_iff.mp empty)
    simp [ofText, Lines.split_of_not_mem isLine.1 filled']
  | @cons rest lines line holds ih =>
    rw [List.forall_mem_cons] at areLines
    have form : (line ++ "\n" ++ rest).toList = line.toList ++ '\n' :: rest.toList := by simp
    rw [ofText, form, Lines.split_append_feed, cut_of_not_mem areLines.1.1, List.map_append,
      ← ofText, ih areLines.2]
    simp [Lines.withoutReturn_of_ne areLines.1.2]

/-- The lines that a text holds are read from its bytes. -/
theorem ofBytes?_of_holdsLines {text : String} {lines : List String} (holds : HoldsLines text lines)
    (areLines : ∀ line ∈ lines, IsLine line) : ofBytes? text.toUTF8 = some lines := by
  rw [ofBytes?_toUTF8, ofText_of_holdsLines holds areLines]

/-- Behind a text that is empty or ends with a line feed, other lines begin. -/
theorem ofText_append {first : String}
    (ended : first = "" ∨ first.toList.getLast? = some '\n') (rest : String) :
    ofText (first ++ rest) = ofText first ++ ofText rest := by
  have ended' : first.toList = [] ∨ first.toList.getLast? = some '\n' :=
    ended.imp_left String.toList_eq_nil_iff.mpr
  rw [ofText, String.toList_append, Lines.split_append ended', List.map_append]
  rfl

theorem ofText_eq_nil_iff {text : String} : ofText text = [] ↔ text = "" := by
  rw [ofText, List.map_eq_nil_iff, Lines.split_eq_nil_iff, String.toList_eq_nil_iff]

end Subjects

end TextTemplate.CommandLine
