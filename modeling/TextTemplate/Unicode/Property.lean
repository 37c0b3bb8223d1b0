import TextTemplate.Unicode.AgeData
import TextTemplate.Unicode.BinaryData
import TextTemplate.Unicode.BreakData
import TextTemplate.Unicode.Category
import TextTemplate.Unicode.ScriptData
import TextTemplate.Unicode.ScriptExtensionData

/-!
# Properties by name

A property of characters is asked for by a name such as Greek, Lu or White_Space, or by a name and a
value such as Script and Greek. Names are compared loosely: case, blanks, hyphens and underscores
do not count, nor does a leading "is". The properties are those of version 16.0 of the Unicode
character database; of the properties with values, the general category, the script, the scripts a
character is shared by, the age and the classes for text boundaries have tables. -/

namespace TextTemplate.Unicode

/-- Why a property cannot be had: there is none of the name, or it has no such value. -/
inductive PropertyFault
  | unknownProperty
  | unknownValue
deriving DecidableEq, Repr

namespace Property

/-- The characters of a name that count, in lower case. -/
def significant (name : List Char) : List Char :=
  let kept := name.filter fun char =>
    char ≠ ' ' && char ≠ '_' && char ≠ '-' && char.toNat < 0x80
  kept.map Char.toLower

/-- The loose form of a name. A leading "is" is dropped, except that "isc" stays as it is. -/
def looseName (name : String) : String :=
  match name.toList with
  | first :: second :: rest =>
    if first.toLower = 'i' ∧ second.toLower = 's' then
      if significant rest = ['c'] then "isc" else String.ofList (significant rest)
    else String.ofList (significant (first :: second :: rest))
  | short => String.ofList (significant short)

/-- The entry of a list whose names hold `name`. -/
def lookup? {α : Type} (rows : List (List String × α)) (name : String) : Option α :=
  (rows.find? fun row => row.1.contains name).map Prod.snd

/-- The general category, or the group of categories, with this loose name. -/
def category? (name : String) : Option RangeTable :=
  match name with
  | "any" => some ⟨#[(0, 0x10FFFF)]⟩
  | "assigned" => some (Category.table [.cn]).compl
  | "ascii" => some ⟨#[(0, 0x7F)]⟩
  | _ => (lookup? Category.names name).map Category.table

/-- Whether a loose name means the general category although it abbreviates another property too. -/
def isCategoryFirst (name : String) : Bool := name = "cf" || name = "sc" || name = "lc"

/-- The loose names of categories and scripts that no character of a text has. -/
def emptyNames : List String :=
  ["cs", "surrogate", "zzzz", "unknown", "hrkt", "katakanaorhiragana"]

def script? (name : String) : Option RangeTable := (lookup? scriptRows name).map RangeTable.decode

/-- The characters used in the script with this loose name: those that are shared with it, and its
own characters that are not shared. -/
def sharedScript? (name : String) : Option RangeTable := do
  let (names, ranges) ← scriptRows.find? fun row => row.1.contains name
  let code ← names.head?
  let rows := sharedScriptRows.map fun row => (RangeTable.words row.1, RangeTable.decode row.2)
  let shared := RangeTable.unionAll (rows.map Prod.snd)
  let here := RangeTable.unionAll ((rows.filter fun row => row.1.contains code.toList).map Prod.snd)
  return ((RangeTable.decode ranges).diff shared).union here

/-- The characters of the version of the database with this loose name, and of all before it. -/
def age? (name : String) : Option RangeTable := do
  let index ← ageRows.findIdx? fun row => row.1.contains name
  return RangeTable.unionAll ((ageRows.take (index + 1)).map fun row => RangeTable.decode row.2)

/-- The table for a value of the property with the loose name `property`; there is none for a
property without tables. -/
def valueTable? (property : String) (value : String) : Option RangeTable :=
  match property with
  | "gc" | "generalcategory" => category? value
  | "sc" | "script" => script? value
  | "scx" | "scriptextensions" => sharedScript? value
  | "age" => age? value
  | "gcb" | "graphemeclusterbreak" => (lookup? graphemeBreakRows value).map RangeTable.decode
  | "wb" | "wordbreak" => (lookup? wordBreakRows value).map RangeTable.decode
  | "sb" | "sentencebreak" => (lookup? sentenceBreakRows value).map RangeTable.decode
  | _ => none

def isOther (name : String) : Bool := (RangeTable.words otherPropertyRows).contains name.toList

/-- The characters that a single name stands for: a binary property, a general category or a
script. -/
def ofName (name : String) : Except PropertyFault RangeTable :=
  let loose := looseName name
  match if isCategoryFirst loose then none else lookup? binaryRows loose with
  | some rows => .ok (RangeTable.decode rows)
  | none =>
    if !isCategoryFirst loose && isOther loose then .error .unknownProperty
    else if emptyNames.contains loose then .error .unknownValue
    else
      match category? loose <|> script? loose with
      | some table => .ok table
      | none => .error .unknownProperty

/-- The characters for which a property has a value. -/
def ofValue (name value : String) : Except PropertyFault RangeTable :=
  let property := looseName name
  if (lookup? binaryRows property).isSome || isOther property then
    match valueTable? property (looseName value) with
    | some table => .ok table
    | none => .error .unknownValue
  else .error .unknownProperty

end Property

def alphabetic : RangeTable := RangeTable.decode alphabeticRanges

def whiteSpace : RangeTable :=
  ⟨#[(0x09, 0x0D), (0x20, 0x20), (0x85, 0x85), (0xA0, 0xA0), (0x1680, 0x1680), (0x2000, 0x200A),
    (0x2028, 0x2029), (0x202F, 0x202F), (0x205F, 0x205F), (0x3000, 0x3000)]⟩

def decimalDigits : RangeTable := Category.table [.nd]

/-- The characters other than letters that a word may hold: marks, decimal digits, connectors and
the two joiners. -/
def wordExtras : RangeTable :=
  Category.runs.foldl
    (fun found run =>
      if ([.mn, .mc, .me, .nd, .pc] : List Category).contains run.1 then found.push run.2.1 run.2.2
      else if run.2.1 ≤ 0x200C ∧ 0x200D ≤ run.2.2 then found.push 0x200C 0x200D
      else found)
    RangeTable.empty

def isWhiteSpace (char : Char) : Bool := whiteSpace.mem char

def isAscii (char : Char) : Bool := char.toNat < 0x80

/-- Whether a word may hold the character: letters, marks, decimal digits, connectors and joiners.
Of ASCII these are the letters, the digits and the underscore. -/
def isWordChar (char : Char) : Bool :=
  if isAscii char then char.isAlphanum || char = '_' else alphabetic.mem char || wordExtras.mem char

end TextTemplate.Unicode
