import TextTemplate.Text.Json

/-!
# Reading JSON

A value is read off the front of a text, and the rest is left for what stands behind the value. In
a text between quotation marks no control character below the blank may stand for itself, and two
escapes with the halves of a pair of surrogates stand for one character. What is written is read
back: the texts with their escapes, and objects whose members are spelled by any such texts. -/

namespace TextTemplate.Text.Json

/-- A value. A number is kept as it is spelled, and an object has its members in their order. -/
inductive Value
  | null
  | bool (truth : Bool)
  | number (spelling : List Char)
  | text (content : String)
  | array (items : List Value)
  | object (members : List (String × Value))

/-! ## Reading texts -/

def hexValue? (digit : Char) : Option Nat :=
  if '0' ≤ digit ∧ digit ≤ '9' then some (digit.toNat - '0'.toNat)
  else if 'a' ≤ digit ∧ digit ≤ 'f' then some (digit.toNat - 'a'.toNat + 10)
  else if 'A' ≤ digit ∧ digit ≤ 'F' then some (digit.toNat - 'A'.toNat + 10)
  else none

def hexNumber? (digits : List Char) : Option Nat :=
  digits.foldlM (fun number digit => (hexValue? digit).map (16 * number + ·)) 0

/-- The character that the halves of a pair of surrogates stand for. -/
def paired? (high low : Nat) : Option Char :=
  if (0xD800 ≤ high ∧ high < 0xDC00) ∧ (0xDC00 ≤ low ∧ low < 0xE000) then
    some (Char.ofNat (0x10000 + 0x400 * (high - 0xD800) + (low - 0xDC00)))
  else none

/-- The character that a backslash and a letter stand for. -/
def escaped? : Char → Option Char
  | '"' => some '"'
  | '\\' => some '\\'
  | '/' => some '/'
  | 'b' => some '\x08'
  | 'f' => some '\x0c'
  | 'n' => some '\n'
  | 'r' => some '\r'
  | 't' => some '\t'
  | _ => none

/-- Puts a character before a text that has been read. -/
def push (char : Char) (read : Option (List Char × List Char)) : Option (List Char × List Char) :=
  read.map fun (text, rest) => (char :: text, rest)

/-- Reads a text up to its closing quotation mark, the opening one being behind. -/
def readText : List Char → Option (List Char × List Char)
  | [] => none
  | '"' :: rest => some ([], rest)
  | '\\' :: 'u' :: a :: b :: c :: d :: rest =>
    match hexNumber? [a, b, c, d] with
    | none => none
    | some unit =>
      if unit.isValidChar then push (Char.ofNat unit) (readText rest)
      else
        match rest with
        | '\\' :: 'u' :: a :: b :: c :: d :: rest =>
          match (hexNumber? [a, b, c, d]).bind (paired? unit) with
          | none => none
          | some char => push char (readText rest)
        | _ => none
  | '\\' :: letter :: rest =>
    match escaped? letter with
    | none => none
    | some char => push char (readText rest)
  | char :: rest => if char = '\\' ∨ char.toNat < 0x20 then none else push char (readText rest)

/-! ## Reading values -/

/-- Whether a character may stand between the parts of a value. -/
def isBlank (char : Char) : Bool := char = ' ' || char = '\t' || char = '\n' || char = '\r'

def skipBlanks (text : List Char) : List Char := text.dropWhile isBlank

def areDigits (digits : List Char) : Bool := !digits.isEmpty && digits.all Char.isDigit

def withoutSign (isSign : Char → Bool) : List Char → List Char
  | [] => []
  | sign :: text => if isSign sign then text else sign :: text

/-- Whether a text spells a number: perhaps a minus sign, digits without a needless zero before
them, perhaps a fraction and perhaps an exponent. -/
def isNumber (spelling : List Char) : Bool :=
  let unsigned := withoutSign (· = '-') spelling
  let mantissa := unsigned.takeWhile fun char => char ≠ 'e' && char ≠ 'E'
  let exponent := unsigned.drop mantissa.length
  let whole := mantissa.takeWhile (· ≠ '.')
  let fraction := mantissa.drop whole.length
  areDigits whole && (whole.head? ≠ some '0' || whole.length = 1)
    && (fraction.isEmpty || areDigits fraction.tail)
    && (exponent.isEmpty ||
      areDigits (withoutSign (fun char => char = '+' || char = '-') exponent.tail))

/-- Reads a number, which goes on as far as its characters do. -/
def readNumber (text : List Char) : Option (Value × List Char) :=
  let spelling := text.takeWhile fun char => char.isDigit || ['+', '-', '.', 'e', 'E'].contains char
  if isNumber spelling then some (.number spelling, text.drop spelling.length) else none

/-- Reads a name and the colon behind it, up to the value. -/
def readName (text : List Char) : Option (String × List Char) :=
  match skipBlanks text with
  | '"' :: rest =>
    match readText rest with
    | none => none
    | some (name, rest) =>
      match skipBlanks rest with
      | ':' :: rest => some (.ofList name, skipBlanks rest)
      | _ => none
  | _ => none

mutual

/-- Reads a value. There is room for it if it has fewer characters than `room` says. -/
def readValue : (room : Nat) → List Char → Option (Value × List Char)
  | 0, _ => none
  | room + 1, text =>
    match text with
    | '"' :: rest => (readText rest).map fun (content, rest) => (.text (.ofList content), rest)
    | '[' :: rest =>
      match skipBlanks rest with
      | ']' :: rest => some (.array [], rest)
      | rest => (readItems room rest).map fun (items, rest) => (.array items, rest)
    | '\x7b' :: rest =>
      match skipBlanks rest with
      | '\x7d' :: rest => some (.object [], rest)
      | rest => (readMembers room rest).map fun (members, rest) => (.object members, rest)
    | 'n' :: 'u' :: 'l' :: 'l' :: rest => some (.null, rest)
    | 't' :: 'r' :: 'u' :: 'e' :: rest => some (.bool true, rest)
    | 'f' :: 'a' :: 'l' :: 's' :: 'e' :: rest => some (.bool false, rest)
    | text => readNumber text

def readItems : (room : Nat) → List Char → Option (List Value × List Char)
  | 0, _ => none
  | room + 1, text =>
    match readValue room (skipBlanks text) with
    | none => none
    | some (item, rest) =>
      match skipBlanks rest with
      | ',' :: rest => (readItems room rest).map fun (items, rest) => (item :: items, rest)
      | ']' :: rest => some ([item], rest)
      | _ => none

/-- Reads the members of an object, of which there is at least one, up to the closing brace. -/
def readMembers : (room : Nat) → List Char → Option (List (String × Value) × List Char)
  | 0, _ => none
  | room + 1, text =>
    match readName text with
    | none => none
    | some (name, rest) =>
      match readValue room rest with
      | none => none
      | some (value, rest) =>
        match skipBlanks rest with
        | ',' :: rest =>
          (readMembers room rest).map fun (members, rest) => ((name, value) :: members, rest)
        | '\x7d' :: rest => some ([(name, value)], rest)
        | _ => none

end

/-- The value that a whole text spells. -/
def decode? (text : List Char) : Option Value :=
  match readValue (text.length + 1) (skipBlanks text) with
  | some (value, rest) => if (skipBlanks rest).isEmpty then some value else none
  | none => none

/-! ## Written texts -/

theorem hexNumber?_control {code : Nat} (small : code < 0x20) :
    hexNumber? ['0', '0', hexDigit (code / 16), hexDigit (code % 16)] = some code := by
  have all : ∀ code < 0x20,
      hexNumber? ['0', '0', hexDigit (code / 16), hexDigit (code % 16)] = some code := by decide
  exact all code small

/-- A character that needs no escape stands for itself. -/
theorem readText_cons {char : Char} (unquoted : char ≠ '"') (unescaped : char ≠ '\\')
    (printed : 0x20 ≤ char.toNat) (rest : List Char) :
    readText (char :: rest) = push char (readText rest) := by
  have plain : ¬ (char = '\\' ∨ char.toNat < 0x20) := by
    rw [not_or]
    exact ⟨unescaped, Nat.not_lt.mpr printed⟩
  conv => lhs; unfold readText
  split
  · contradiction
  · next same => exact absurd (List.cons.inj same).1 unquoted
  · next same => exact absurd (List.cons.inj same).1 unescaped
  · next same => exact absurd (List.cons.inj same).1 unescaped
  · next same =>
    obtain ⟨rfl, rfl⟩ := List.cons.inj same
    exact if_neg plain

/-- A character is written as an escape of two characters, by its number, or as it is. -/
theorem encodeChar_cases (char : Char) :
    (∃ letter, encodeChar char = ['\\', letter] ∧ 0x20 ≤ letter.toNat ∧
        ∀ rest, readText ('\\' :: letter :: rest) = push char (readText rest)) ∨
      (char.toNat < 0x20 ∧ encodeChar char =
        ['\\', 'u', '0', '0', hexDigit (char.toNat / 16), hexDigit (char.toNat % 16)]) ∨
      (char ≠ '"' ∧ char ≠ '\\' ∧ 0x20 ≤ char.toNat ∧ encodeChar char = [char]) := by
  unfold encodeChar
  split
  any_goals exact .inl ⟨_, rfl, by decide, fun _ => rfl⟩
  next unquoted unescaped _ _ _ _ _ =>
    split
    · next small => exact .inr (.inl ⟨small, rfl⟩)
    · next large => exact .inr (.inr ⟨unquoted, unescaped, Nat.not_lt.mp large, rfl⟩)

/-- A written character is read back, whatever stands behind it. -/
theorem readText_encodeChar (char : Char) (rest : List Char) :
    readText (encodeChar char ++ rest) = push char (readText rest) := by
  rcases encodeChar_cases char with ⟨letter, form, _, reads⟩ | ⟨small, form⟩ |
    ⟨unquoted, unescaped, printed, form⟩
  · rw [form]
    exact reads rest
  · have valid : char.toNat.isValidChar := Or.inl (by omega)
    rw [form]
    simp [readText, hexNumber?_control small, valid, Char.ofNat_toNat]
  · rw [form]
    exact readText_cons unquoted unescaped printed rest

theorem readText_encode (text rest : List Char) :
    readText (text.flatMap encodeChar ++ '"' :: rest) = some (text, rest) := by
  induction text with
  | nil => rfl
  | cons char text ih =>
    rw [List.flatMap_cons, List.append_assoc, readText_encodeChar, ih]
    rfl

/-! ## Written values -/

/-- A text spells a value: it starts without a blank, and it is read as the value, whatever stands
behind it. -/
structure Spells (spelling : List Char) (value : Value) : Prop where
  starts : ∃ first others, spelling = first :: others ∧ isBlank first = false
  reads : ∀ room, spelling.length < room → ∀ rest,
    readValue room (spelling ++ rest) = some (value, rest)

theorem skipBlanks_cons {first : Char} (printed : isBlank first = false) (rest : List Char) :
    skipBlanks (first :: rest) = first :: rest := by
  simp [skipBlanks, printed]

theorem Spells.skipBlanks_append {spelling : List Char} {value : Value}
    (spells : Spells spelling value) (rest : List Char) :
    skipBlanks (spelling ++ rest) = spelling ++ rest := by
  obtain ⟨first, others, rfl, printed⟩ := spells.starts
  exact skipBlanks_cons printed _

/-- What is spelled is decoded. -/
theorem Spells.decode? {spelling : List Char} {value : Value} (spells : Spells spelling value) :
    decode? spelling = some value := by
  have passed := spells.skipBlanks_append []
  have read := spells.reads (spelling.length + 1) (Nat.lt_succ_self _) []
  rw [List.append_nil] at passed read
  rw [Json.decode?, passed, read]
  rfl

/-- What is never written is read too: blanks, numbers, arrays and pairs of surrogates. -/
example : decode? "[ -1.5e3, \"\\ud83d\\uDE00\\/\", null ]".toList =
    some (.array [.number "-1.5e3".toList, .text "😀/", .null]) := by cbv

/-- A line feed may not stand for itself in a text. -/
example : decode? "\"a\nb\"".toList = none := by cbv

theorem encode_append (text rest : List Char) :
    encode text ++ rest = '"' :: (text.flatMap encodeChar ++ '"' :: rest) := by
  simp [encode]

theorem spells_encode (text : String) : Spells (encode text.toList) (.text text) where
  starts := ⟨'"', _, rfl, rfl⟩
  reads room space rest := by
    obtain ⟨room, rfl⟩ := Nat.exists_eq_add_one_of_ne_zero (Nat.ne_zero_of_lt space)
    rw [encode_append, readValue, readText_encode]
    simp

theorem spells_true : Spells ['t', 'r', 'u', 'e'] (.bool true) where
  starts := ⟨'t', _, rfl, rfl⟩
  reads room space rest := by
    obtain ⟨room, rfl⟩ := Nat.exists_eq_add_one_of_ne_zero (Nat.ne_zero_of_lt space)
    rfl

theorem spells_false : Spells ['f', 'a', 'l', 's', 'e'] (.bool false) where
  starts := ⟨'f', _, rfl, rfl⟩
  reads room space rest := by
    obtain ⟨room, rfl⟩ := Nat.exists_eq_add_one_of_ne_zero (Nat.ne_zero_of_lt space)
    rfl

/-! ### Objects -/

/-- A member of an object, with the text that its value is written as. -/
structure Member where
  name : String
  spelling : List Char
  value : Value

/-- How some members are written between the braces. -/
def memberTexts : List Member → List Char
  | [] => []
  | [member] => encode member.name.toList ++ ':' :: member.spelling
  | member :: next :: members =>
    encode member.name.toList ++ ':' :: member.spelling ++ ',' :: memberTexts (next :: members)

theorem readName_encode (name : String) (rest : List Char) :
    readName (encode name.toList ++ ':' :: rest) = some (name, skipBlanks rest) := by
  rw [encode_append, readName, skipBlanks_cons rfl]
  simp only
  rw [readText_encode]
  simp only
  rw [skipBlanks_cons rfl]
  simp

/-- A member is read, and what stands behind it tells whether others follow. -/
theorem readMembers_cons {member : Member} (spells : Spells member.spelling member.value)
    {room : Nat} (space : member.spelling.length < room) (rest : List Char) :
    readMembers (room + 1) (encode member.name.toList ++ ':' :: (member.spelling ++ rest)) =
      match skipBlanks rest with
      | ',' :: rest => (readMembers room rest).map fun (members, rest) =>
          ((member.name, member.value) :: members, rest)
      | '\x7d' :: rest => some ([(member.name, member.value)], rest)
      | _ => none := by
  rw [readMembers, readName_encode, spells.skipBlanks_append]
  simp only
  rw [spells.reads room space]

theorem length_encode (text : List Char) : 2 ≤ (encode text).length := by
  simp [encode]

theorem readMembers_memberTexts {members : List Member} (filled : members ≠ [])
    (spells : ∀ member ∈ members, Spells member.spelling member.value) {room : Nat}
    (space : (memberTexts members).length < room) (rest : List Char) :
    readMembers room (memberTexts members ++ '\x7d' :: rest) =
      some (members.map fun member => (member.name, member.value), rest) := by
  induction members generalizing room with
  | nil => contradiction
  | cons member members ih =>
    obtain ⟨room, rfl⟩ := Nat.exists_eq_add_one_of_ne_zero (Nat.ne_zero_of_lt space)
    obtain ⟨first, others⟩ := List.forall_mem_cons.mp spells
    have quotes := length_encode member.name.toList
    cases members with
    | nil =>
      simp only [memberTexts, List.length_append, List.length_cons] at space
      rw [memberTexts, List.append_assoc, List.cons_append,
        readMembers_cons first (by omega), skipBlanks_cons rfl]
      rfl
    | cons next members =>
      simp only [memberTexts, List.length_append, List.length_cons] at space
      rw [memberTexts, List.append_assoc, List.append_assoc, List.cons_append,
        readMembers_cons first (by omega), List.cons_append, skipBlanks_cons rfl]
      simp only
      rw [ih (List.cons_ne_nil _ _) others (by omega)]
      rfl

/-- An object is spelled by its members between braces. -/
theorem spells_object {members : List Member}
    (spells : ∀ member ∈ members, Spells member.spelling member.value) :
    Spells ('\x7b' :: memberTexts members ++ ['\x7d'])
      (.object (members.map fun member => (member.name, member.value))) where
  starts := ⟨'\x7b', _, rfl, rfl⟩
  reads room space rest := by
    obtain ⟨room, rfl⟩ := Nat.exists_eq_add_one_of_ne_zero (Nat.ne_zero_of_lt space)
    cases members with
    | nil => rfl
    | cons member members =>
      simp only [List.length_append, List.length_cons] at space
      have space' : (memberTexts (member :: members)).length < room := by omega
      have start : ∃ others, memberTexts (member :: members) = '"' :: others := by
        cases members <;> exact ⟨_, rfl⟩
      obtain ⟨others, start⟩ := start
      have read := readMembers_memberTexts (List.cons_ne_nil _ _) spells space' rest
      rw [start, List.cons_append] at read
      rw [List.append_assoc, List.cons_append, readValue, start, List.cons_append,
        skipBlanks_cons rfl]
      change Option.map _ (readMembers room _) = _
      rw [List.singleton_append, read]
      rfl

/-! ## Control characters -/

/-- No control character below the blank stands for itself. -/
theorem blank_le_of_mem_encodeChar {char letter : Char} (member : letter ∈ encodeChar char) :
    0x20 ≤ letter.toNat := by
  have digits : ∀ code < 0x20, 0x20 ≤ (hexDigit (code / 16)).toNat ∧
      0x20 ≤ (hexDigit (code % 16)).toNat := by decide
  have printed : ∀ letter ∈ encodeChar char, 0x20 ≤ letter.toNat := by
    rcases encodeChar_cases char with ⟨escape, form, printed, _⟩ | ⟨small, form⟩ |
      ⟨_, _, printed, form⟩
    · simp [form, printed]
    · simp [form, digits char.toNat small]
    · simp [form, printed]
  exact printed letter member

theorem blank_le_of_mem_encode {text : List Char} {letter : Char} (member : letter ∈ encode text) :
    0x20 ≤ letter.toNat := by
  simp only [encode, List.cons_append, List.mem_cons, List.mem_append, List.mem_flatMap,
    List.not_mem_nil, or_false] at member
  rcases member with rfl | ⟨char, _, member⟩ | rfl
  · decide
  · exact blank_le_of_mem_encodeChar member
  · decide

theorem blank_le_of_mem_memberTexts {members : List Member}
    (printed : ∀ member ∈ members, ∀ letter ∈ member.spelling, 0x20 ≤ letter.toNat) :
    ∀ letter ∈ memberTexts members, 0x20 ≤ letter.toNat := by
  induction members with
  | nil => exact fun _ member => absurd member List.not_mem_nil
  | cons member members ih =>
    obtain ⟨first, others⟩ := List.forall_mem_cons.mp printed
    have alone : ∀ letter ∈ encode member.name.toList ++ ':' :: member.spelling,
        0x20 ≤ letter.toNat :=
      List.forall_mem_append.mpr ⟨fun _ => blank_le_of_mem_encode,
        List.forall_mem_cons.mpr ⟨by decide, first⟩⟩
    cases members with
    | nil => exact alone
    | cons next members =>
      exact List.forall_mem_append.mpr ⟨alone, List.forall_mem_cons.mpr ⟨by decide, ih others⟩⟩

end TextTemplate.Text.Json
