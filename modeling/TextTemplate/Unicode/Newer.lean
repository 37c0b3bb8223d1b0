import TextTemplate.Unicode.NewerData
import TextTemplate.Unicode.Property

/-!
# Newer characters

The properties by name belong to version 16.0 of the Unicode character database. Names of groups,
the parts of a log filter and quoted texts know the characters of version 17.0 too. Version 17.0
only added characters in the properties that matter there, so each table here is that of version
16.0 together with a table of additions. -/

namespace TextTemplate.Unicode

/-- The characters that version 17.0 added. -/
def newer : RangeTable := RangeTable.decode newerRanges

/-- The alphabetic characters among them. -/
def newerAlphabetic : RangeTable := RangeTable.decode newerAlphabeticRanges

/-- The numbers of every kind up to version 16.0. -/
def numeric : RangeTable := Category.table Category.numbers

/-- The numbers that version 17.0 added. -/
def newerNumeric : RangeTable := RangeTable.decode newerNumericRanges

/-- Whether the character is alphabetic. Of ASCII only the letters are, so that the tables need not
be asked there. -/
def isAlphabetic (char : Char) : Bool :=
  if isAscii char then char.isAlpha else alphabetic.mem char || newerAlphabetic.mem char

/-- Whether the character is alphabetic or a number: of ASCII these are the letters and digits. -/
def isAlphanumeric (char : Char) : Bool :=
  if isAscii char then char.isAlphanum
  else isAlphabetic char || numeric.mem char || newerNumeric.mem char

/-- The characters that extend the one before them and are marks. -/
def extendingMarks : RangeTable :=
  let extending := RangeTable.decode ((Property.lookup? binaryRows "grext").getD [])
  (extending.diff (Category.table Category.letters)).union (RangeTable.decode newerExtendingRanges)

/-- The characters that are not shown at all where they are not supported. -/
def ignorable : RangeTable := RangeTable.decode ((Property.lookup? binaryRows "di").getD [])

/-- Controls, formats, surrogates, private use, separators, and code points without a character. -/
def unprintable : RangeTable :=
  (Category.table (Category.others ++ Category.separators)).diff newer

end TextTemplate.Unicode
