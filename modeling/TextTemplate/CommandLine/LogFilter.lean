import TextTemplate.CommandLine.LogRule

/-!
# The filter of the log

A filter is spelled as rules between commas. Of the rules for a record the most specific one
decides whether it is written. -/

namespace TextTemplate.CommandLine

structure LogFilter where
  rules : List LogRule
deriving DecidableEq, Repr

namespace LogFilter

/-- The filter that a setting spells. Without a setting, or with one that is no filter, warnings
are logged, and with an empty one errors. -/
def ofSetting (setting : Option String) : LogFilter :=
  match setting with
  | none => ⟨[.upTo .warn]⟩
  | some text =>
    let parts := (Text.cut ',' text.toList).filter fun part => !part.isEmpty
    match parts.mapM LogRule.ofText? with
    | none => ⟨[.upTo .warn]⟩
    | some [] => ⟨[.upTo .error]⟩
    | some rules => ⟨rules⟩

def ruleFor? (filter : LogFilter) (record : LogRecord) : Option LogRule :=
  (filter.rules.filter (LogRule.isFor record)).foldl
    (fun best rule => if best.all rule.goesBefore then some rule else best) none

def admits (filter : LogFilter) (record : LogRecord) : Bool :=
  (filter.ruleFor? record).any fun rule => record.level.rank ≤ rule.level.rank

def lines (filter : LogFilter) (records : List LogRecord) : String :=
  String.join ((records.filter filter.admits).map LogRecord.line)

end LogFilter

end TextTemplate.CommandLine
