import Mathlib.Data.List.TakeWhile
import TextTemplate.Proofs.CommandLine.Clauses

/-!
# Spelling options

An option with a value can be written in several ways, by its long or its short name and with the
value attached or as an argument of its own. Wherever it is written, up to the two hyphens that end
the options, it adds its clause to those of the other arguments. -/

namespace TextTemplate.CommandLine

/-- A text that is read as a value or a positional argument, not as an option. -/
def IsPlain (text : String) : Prop := text = "-" ∨ text.toList.head? ≠ some '-'

/-- Arguments that give a value to an option: its long name with the value behind an equals sign or
in an argument of its own, or its short name with the value directly behind it, behind an equals
sign or in an argument of its own. -/
inductive Spells (option : Parameter) (value : String) : List String → Prop
  | long {name : String} (named : Parameter.ofLongName? name = some option) :
      Spells option value ["--" ++ name ++ "=" ++ value]
  | longApart {name : String} (named : Parameter.ofLongName? name = some option)
      (plain : IsPlain value) : Spells option value ["--" ++ name, value]
  | short {letter : Char} (named : Parameter.ofShortName? letter = some option)
      (filled : value ≠ "") (distinct : value.toList.head? ≠ some '=') :
      Spells option value ["-" ++ String.singleton letter ++ value]
  | shortSign {letter : Char} (named : Parameter.ofShortName? letter = some option) :
      Spells option value ["-" ++ String.singleton letter ++ "=" ++ value]
  | shortApart {letter : Char} (named : Parameter.ofShortName? letter = some option)
      (plain : IsPlain value) : Spells option value ["-" ++ String.singleton letter, value]

/-! ## Lexemes of spelled options -/

namespace Lexeme

variable {option : Parameter} {name text value : String} {letter : Char}

theorem ofTexts_cons_of_ne (other : text ≠ "--") (rest : List String) :
    ofTexts (text :: rest) = ofText text ++ ofTexts rest := if_neg other

theorem ofText_of_isPlain (plain : IsPlain text) : ofText text = [.plain text] := by
  rcases plain with rfl | plain
  · rfl
  · unfold ofText
    split
    · next same => simp [same] at plain
    · next same => simp [same] at plain
    · rfl

theorem ne_separator_of_isPlain (plain : IsPlain text) : text ≠ "--" := by
  rintro rfl
  rcases plain with same | plain
  · simp at same
  · simp at plain

theorem ofTexts_of_long {signs : List Char} (form : text.toList = '-' :: '-' :: signs)
    (filled : signs ≠ []) (rest : List String) :
    ofTexts (text :: rest) = ofLong signs :: ofTexts rest := by
  have other : text ≠ "--" := by
    rintro rfl
    exact filled (by simpa using form.symm)
  rw [ofTexts_cons_of_ne other]
  simp [ofText, form]

theorem ofTexts_of_short {signs : List Char} (form : text.toList = '-' :: letter :: signs)
    (named : Parameter.ofShortName? letter = some option) (rest : List String) :
    ofTexts (text :: rest) = ofShort (letter :: signs) ++ ofTexts rest := by
  have noHyphen : letter ≠ '-' := by
    rintro rfl
    cases named
  have other : text ≠ "--" := by
    rintro rfl
    exact noHyphen (by simpa using form.symm : _ ∧ _).1
  rw [ofTexts_cons_of_ne other]
  simp [ofText, form]

/-- No long name is empty or has an equals sign in it. -/
theorem longName_letters (named : Parameter.ofLongName? name = some option) :
    name.toList ≠ [] ∧ ∀ letter ∈ name.toList, decide (letter ≠ '=') = true := by
  have listed : name ∈ Parameter.longNames.map Prod.fst := by
    obtain ⟨_, _, same, _⟩ := List.lookup_eq_some_iff.mp named
    rw [same]
    simp
  simp only [Parameter.longNames, List.map_cons, List.map_nil, List.mem_cons, List.not_mem_nil,
    or_false] at listed
  rcases listed with rfl | rfl | rfl | rfl | rfl | rfl | rfl | rfl | rfl <;> simp

theorem ofLong_append_sign (named : Parameter.ofLongName? name = some option)
    (takes : option.takesValue = true) (value : List Char) :
    ofLong (name.toList ++ '=' :: value) = .attached option (String.ofList value) := by
  have letters := (longName_letters named).2
  simp only [ofLong, List.takeWhile_append_of_pos letters, List.dropWhile_append_of_pos letters]
  simp [named, takes]

theorem ofLong_of_named (named : Parameter.ofLongName? name = some option) :
    ofLong name.toList = if option.takesValue then .awaiting option else .flag option := by
  have letters := (longName_letters named).2
  simp only [ofLong, List.takeWhile_eq_self_iff.mpr letters, List.dropWhile_eq_nil_iff.mpr letters]
  simp [named]

/-- An option with its value gives the same, however it is written. -/
theorem ofTexts_of_spells {texts : List String} (takes : option.takesValue = true)
    (spells : Spells option value texts) (rest : List String) :
    ofTexts (texts ++ rest) = .attached option value :: ofTexts rest ∨
      ofTexts (texts ++ rest) = .awaiting option :: .plain value :: ofTexts rest := by
  cases spells with
  | @long name named =>
    left
    have form : ("--" ++ name ++ "=" ++ value).toList =
        '-' :: '-' :: (name.toList ++ '=' :: value.toList) := by simp
    rw [List.cons_append, ofTexts_of_long form (by simp), ofLong_append_sign named takes,
      String.ofList_toList]
    rfl
  | @longApart name named plain =>
    right
    have form : ("--" ++ name).toList = '-' :: '-' :: name.toList := by simp
    rw [List.cons_append, ofTexts_of_long form (longName_letters named).1,
      ofLong_of_named named, if_pos takes, List.cons_append,
      ofTexts_cons_of_ne (ne_separator_of_isPlain plain), ofText_of_isPlain plain]
    rfl
  | @short letter named filled distinct =>
    left
    have form : ("-" ++ String.singleton letter ++ value).toList =
        '-' :: letter :: value.toList := by simp
    have attached : ofShort (letter :: value.toList) = [.attached option value] := by
      simp only [ofShort, named, takes, if_true]
      split
      · next empty => exact absurd (String.toList_eq_nil_iff.mp empty) filled
      · next sign => simp [sign] at distinct
      · rw [String.ofList_toList]
    rw [List.cons_append, ofTexts_of_short form named, attached]
    rfl
  | @shortSign letter named =>
    left
    have form : ("-" ++ String.singleton letter ++ "=" ++ value).toList =
        '-' :: letter :: '=' :: value.toList := by simp
    rw [List.cons_append, ofTexts_of_short form named]
    simp [ofShort, named, takes]
  | @shortApart letter named plain =>
    right
    have form : ("-" ++ String.singleton letter).toList = ['-', letter] := by simp
    rw [List.cons_append, ofTexts_of_short form named, List.cons_append,
      ofTexts_cons_of_ne (ne_separator_of_isPlain plain), ofText_of_isPlain plain]
    simp [ofShort, named, takes]

end Lexeme

namespace Clause

variable {option : Parameter} {text : String} {before after spelled : List String}

theorem ofLexemes_positional (texts : List String) :
    ofLexemes (texts.map .positional) = texts.map positional := by
  induction texts with
  | nil => rfl
  | cons text rest ih => exact congrArg (positional text :: ·) ih

theorem isApart_positional (first : List Lexeme) (texts : List String) :
    IsApart first (texts.map .positional) := by
  right
  intro text
  cases texts <;> simp

/-- The clauses of arguments before two hyphens alone and of those behind them. -/
theorem ofTexts_append_separator (unclosed : "--" ∉ before) (texts : List String) :
    ofTexts (before ++ "--" :: texts) = ofTexts before ++ texts.map positional := by
  have behind : Lexeme.ofTexts ("--" :: texts) = texts.map .positional := if_pos rfl
  rw [ofTexts, Lexeme.ofTexts_append _ unclosed, behind,
    ofLexemes_append (isApart_positional _ texts), ofLexemes_positional]
  rfl

/-- Two hyphens alone among the first arguments make positional arguments of all others. -/
theorem ofTexts_append_of_mem (closed : "--" ∈ before) (texts : List String) :
    ofTexts (before ++ texts) = ofTexts before ++ texts.map positional := by
  rw [ofTexts, Lexeme.ofTexts_append_of_mem _ closed,
    ofLexemes_append (isApart_positional _ texts), ofLexemes_positional]
  rfl

section Insert

variable (unclosed : "--" ∉ before)
  (complete : ∀ other, (Lexeme.ofTexts before).getLast? ≠ some (.awaiting other))

include unclosed complete

theorem ofTexts_append : ofTexts (before ++ after) = ofTexts before ++ ofTexts after := by
  rw [ofTexts, Lexeme.ofTexts_append _ unclosed, ofLexemes_append (.inl complete)]
  rfl

/-- An option with its value adds one clause where it is written. -/
theorem ofTexts_insert (takes : option.takesValue = true) (spells : Spells option text spelled) :
    ofTexts (before ++ (spelled ++ after)) =
      ofTexts before ++ .value option text :: ofTexts after := by
  rw [ofTexts_append unclosed complete]
  congr 1
  rcases Lexeme.ofTexts_of_spells takes spells after with form | form <;> rw [ofTexts, form] <;> rfl

end Insert

end Clause

end TextTemplate.CommandLine
