import TextTemplate.Unicode.CategoryData
import TextTemplate.Unicode.RangeTable

/-!
# General categories

Every code point has one of thirty general categories. The groups that text is asked about
(letters, marks, numbers, …) are lists of categories, and Category.table turns such a list into a
table of code points. -/

namespace TextTemplate.Unicode

/-- A general category, under its two-letter abbreviation. -/
inductive Category
  | lu | ll | lt | lm | lo
  | mn | mc | me
  | nd | nl | no
  | pc | pd | ps | pe | pi | pf | po
  | sm | sc | sk | so
  | zs | zl | zp
  | cc | cf | cs | co | cn
deriving DecidableEq, Repr, Inhabited

namespace Category

def abbreviations : List (String × Category) :=
  [("Lu", lu), ("Ll", ll), ("Lt", lt), ("Lm", lm), ("Lo", lo), ("Mn", mn), ("Mc", mc), ("Me", me),
   ("Nd", nd), ("Nl", nl), ("No", no), ("Pc", pc), ("Pd", pd), ("Ps", ps), ("Pe", pe), ("Pi", pi),
   ("Pf", pf), ("Po", po), ("Sm", sm), ("Sc", sc), ("Sk", sk), ("So", so), ("Zs", zs), ("Zl", zl),
   ("Zp", zp), ("Cc", cc), ("Cf", cf), ("Cs", cs), ("Co", co), ("Cn", cn)]

/-- The runs of code points of one category, as category, first and last code point. -/
def runs : Array (Category × Nat × Nat) :=
  let (found, _) := (RangeTable.words categoryRuns).foldl
    (fun (state : Array (Category × Nat × Nat) × Nat) word =>
      let length := Text.decimal (word.drop 2)
      match abbreviations.lookup (String.ofList (word.take 2)) with
      | some category => (state.1.push (category, state.2, state.2 + length - 1), state.2 + length)
      | none => state)
    (#[], 0)
  found

/-- The code points whose category is one of `members`. -/
def table (members : List Category) : RangeTable :=
  runs.foldl
    (fun found run => if members.contains run.1 then found.push run.2.1 run.2.2 else found)
    RangeTable.empty

def letters : List Category := [lu, ll, lt, lm, lo]

/-- The marks, which combine with the character before them. -/
def marks : List Category := [mn, mc, me]

/-- The numbers: decimal digits, letter-like numbers and others. -/
def numbers : List Category := [nd, nl, no]

def punctuation : List Category := [pc, pd, ps, pe, pi, pf, po]

def symbols : List Category := [sm, sc, sk, so]

def separators : List Category := [zs, zl, zp]

/-- Controls, formats, surrogates, private use and unassigned code points. -/
def others : List Category := [cc, cf, cs, co, cn]

/-- The loose names of categories and of groups of categories. The surrogates alone have none,
because no text holds them. -/
def names : List (List String × List Category) :=
  [(["lu", "uppercaseletter"], [lu]), (["ll", "lowercaseletter"], [ll]),
   (["lt", "titlecaseletter"], [lt]), (["lc", "casedletter"], [lu, ll, lt]),
   (["lm", "modifierletter"], [lm]), (["lo", "otherletter"], [lo]), (["l", "letter"], letters),
   (["mn", "nonspacingmark"], [mn]), (["mc", "spacingmark"], [mc]), (["me", "enclosingmark"], [me]),
   (["m", "mark", "combiningmark"], marks),
   (["nd", "decimalnumber", "digit"], [nd]), (["nl", "letternumber"], [nl]),
   (["no", "othernumber"], [no]), (["n", "number"], numbers),
   (["pc", "connectorpunctuation"], [pc]), (["pd", "dashpunctuation"], [pd]),
   (["ps", "openpunctuation"], [ps]), (["pe", "closepunctuation"], [pe]),
   (["pi", "initialpunctuation"], [pi]), (["pf", "finalpunctuation"], [pf]),
   (["po", "otherpunctuation"], [po]), (["p", "punctuation", "punct"], punctuation),
   (["sm", "mathsymbol"], [sm]), (["sc", "currencysymbol"], [sc]), (["sk", "modifiersymbol"], [sk]),
   (["so", "othersymbol"], [so]), (["s", "symbol"], symbols),
   (["zs", "spaceseparator"], [zs]), (["zl", "lineseparator"], [zl]),
   (["zp", "paragraphseparator"], [zp]), (["z", "separator"], separators),
   (["cc", "control", "cntrl"], [cc]), (["cf", "format"], [cf]), (["co", "privateuse"], [co]),
   (["cn", "unassigned"], [cn]), (["c", "other"], others)]

end Category

end TextTemplate.Unicode
