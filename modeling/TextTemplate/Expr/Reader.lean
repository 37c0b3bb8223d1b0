import TextTemplate.Expr.Bracket
import TextTemplate.Expr.Count
import TextTemplate.Expr.Opening

/-!
# Reading an expression

The text of an expression is read from left to right, one sign at a time: an atom, a repetition, the
bar between alternatives, the opening or the end of a group, or a step inside brackets. The state
of the reading holds what has been read on every open level. The first fault ends the reading; some
faults are only reported when the whole text has been read. -/

namespace TextTemplate

/-- A part of an expression's text that has been read, with its start and the levels of parts inside
it. -/
structure Item where
  /-- Its expression; there is none for flags that were set, which cannot be repeated. -/
  expr : Option Expr
  start : Nat
  spine : Spine
deriving DecidableEq, Repr

/-- An alternative that has been read to its end, with the levels of parts inside it. -/
structure Branch where
  expr : Expr
  spine : Spine
deriving DecidableEq, Repr

/-- What has been read between the parentheses of a group, or outside of all groups: the
alternatives before the last bar, and the parts of the one behind it, both with the last one
first. -/
structure Level where
  start : Nat
  branches : List Branch
  branchStart : Nat
  items : List Item
deriving DecidableEq, Repr

/-- A group that has been opened, with what was read on the level around it. -/
structure OpenGroup where
  parenthesis : Span
  kind : GroupKind
  /-- The flags that are in force again when it is closed. -/
  flags : Flags
  around : Level
deriving DecidableEq, Repr

/-- The state of the reading. The groups and the brackets are those still open, the innermost one
first, and the names of groups come with their places. -/
structure Reading where
  flags : Flags
  level : Level
  groups : List OpenGroup
  brackets : List Bracket
  names : List (String × Span)
  /-- The first of the faults that are reported at the end. -/
  late : Option Fault
deriving DecidableEq, Repr

namespace Level

def starting (start : Nat) : Level := ⟨start, [], start, []⟩

def add (item : Item) (level : Level) : Level := { level with items := item :: level.items }

/-- The alternative behind the last bar, when it ends before `stop`. -/
def branch (stop : Nat) (level : Level) : Branch :=
  match level.items with
  | [] => ⟨.empty, []⟩
  | [item] => ⟨item.expr.getD .empty, item.spine⟩
  | items =>
    ⟨.sequence (items.filterMap (·.expr)),
      ⟨level.branchStart, stop⟩ :: Spine.mergeAll (items.map (·.spine))⟩

/-- The level behind a bar at the place `bar`, whose next alternative starts at `start`. -/
def nextBranch (bar start : Nat) (level : Level) : Level :=
  { level with branches := level.branch bar :: level.branches, branchStart := start, items := [] }

/-- Everything on the level, when it ends before `stop`. -/
def content (stop : Nat) (level : Level) : Branch :=
  let last := level.branch stop
  match level.branches with
  | [] => last
  | branches =>
    let all := last :: branches
    ⟨.choice (all.map (·.expr)), ⟨level.start, stop⟩ :: Spine.mergeAll (all.map (·.spine))⟩

end Level

namespace Reading

def initial : Reading := ⟨{}, .starting 0, [], [], [], none⟩

def add (item : Item) (late : Option Fault) (reading : Reading) : Reading :=
  { reading with level := reading.level.add item, late := reading.late <|> late }

/-- Reads a repetition, whose sign is at the cursor: it applies to the last part of the innermost
level. -/
def readRepetition (cursor : Cursor) (reading : Reading) : Except Fault (Reading × Cursor) :=
  match reading.level.items with
  | ⟨some expr, start, spine⟩ :: items => do
    let (count, marked, after) ← Count.read reading.flags.extended cursor
    let repeated := .rep count.least count.more (marked != reading.flags.lazyFirst) expr
    let item : Item := ⟨some repeated, start, after.since start :: spine⟩
    return ({ reading with level := { reading.level with items := item :: items } }, after)
  | _ => .error ⟨.repetitionMissing, cursor.here⟩

/-- Opens a group whose parenthesis is at the cursor and whose inside starts at `after`. -/
def openGroup (kind : GroupKind) (flags : Flags) (cursor after : Cursor)
    (reading : Reading) : Reading :=
  { reading with
    flags := flags
    level := .starting after.offset
    groups := ⟨cursor.sign, kind, reading.flags, reading.level⟩ :: reading.groups }

def readOpening (cursor : Cursor) (reading : Reading) : Except Fault (Reading × Cursor) := do
  let (opening, after) ← Opening.read reading.flags.extended cursor
  match opening with
  | .capture none => return (reading.openGroup .numbered reading.flags cursor after, after)
  | .capture (some (name, span)) =>
    match reading.names.lookup name with
    | some first => throw ⟨.nameTwice first, span⟩
    | none =>
      let named := { reading with names := (name, span) :: reading.names }
      return (named.openGroup (.named name) reading.flags cursor after, after)
  | .plain flags =>
    return (reading.openGroup .plain (reading.flags.apply flags) cursor after, after)
  | .directive flags =>
    let item : Item := ⟨none, cursor.offset, []⟩
    return ({ reading.add item none with flags := reading.flags.apply flags }, after)

def closeGroup (cursor : Cursor) (reading : Reading) : Except Fault (Reading × Cursor) :=
  match reading.groups with
  | [] => .error ⟨.groupUnopened, cursor.sign⟩
  | group :: groups =>
    let content := reading.level.content cursor.offset
    let start := group.parenthesis.start
    let item : Item :=
      ⟨some (.group group.kind content.expr), start, cursor.next.since start :: content.spine⟩
    .ok ({ reading with flags := group.flags, level := group.around.add item, groups := groups },
      cursor.next)

def readAtom (cursor : Cursor) (reading : Reading) : Except Fault (Reading × Cursor) := do
  let (atom, after) ← Atom.read reading.flags.extended cursor
  let (expr, late) := atom.toExpr reading.flags
  return (reading.add ⟨some expr, cursor.offset, []⟩ late, after)

/-- Opens brackets that stand inside no others. -/
def openBrackets (cursor : Cursor) (reading : Reading) : Except Fault (Reading × Cursor) := do
  let (bracket, after) ← Bracket.readOpening reading.flags.extended cursor
  return ({ reading with brackets := [bracket] }, after)

def readInBrackets (bracket : Bracket) (outer : List Bracket) (cursor : Cursor)
    (reading : Reading) : Except Fault (Reading × Cursor) := do
  let (progress, after) ← bracket.step reading.flags outer cursor
  let reading :=
    { reading with brackets := progress.brackets, late := reading.late <|> progress.late }
  match progress.closed with
  | none => return (reading, after)
  | some member =>
    return (reading.add ⟨some (.set member.set), member.span.start, member.spine⟩ none, after)

/-- Reads the next sign, which is at the cursor. -/
def readSign (cursor : Cursor) (reading : Reading) : Except Fault (Reading × Cursor) :=
  match reading.brackets, cursor.rest with
  | _, [] => .ok (reading, cursor)
  | bracket :: outer, _ => reading.readInBrackets bracket outer cursor
  | [], '(' :: _ => reading.readOpening cursor
  | [], ')' :: _ => reading.closeGroup cursor
  | [], '|' :: _ =>
    .ok ({ reading with level := reading.level.nextBranch cursor.offset cursor.next.offset },
      cursor.next)
  | [], '[' :: _ => reading.openBrackets cursor
  | [], '*' :: _ => reading.readRepetition cursor
  | [], '+' :: _ => reading.readRepetition cursor
  | [], '?' :: _ => reading.readRepetition cursor
  | [], '\x7b' :: _ => reading.readRepetition cursor
  | [], _ => reading.readAtom cursor

/-- Reads the next sign behind what is to be skipped. -/
def step (cursor : Cursor) (reading : Reading) : Except Fault (Reading × Cursor) :=
  reading.readSign (cursor.skip reading.flags.extended)

/-- Reads signs up to the end of the text. The next `taken` characters belong to the sign
before. -/
def run : (taken offset : Nat) → (text : List Char) → Reading → Except Fault Reading
  | _, _, [], reading => .ok reading
  | taken + 1, offset, _ :: rest, reading => run taken (offset + 1) rest reading
  | 0, offset, char :: rest, reading => do
    let (reading, after) ← reading.step ⟨offset, char :: rest⟩
    run (after.offset - offset - 1) (offset + 1) rest reading

/-- The whole expression, when the text ends after `stop` characters. -/
def finish (stop : Nat) (reading : Reading) : Except Fault Expr :=
  match reading.brackets, reading.groups with
  | bracket :: _, _ => .error bracket.unclosed
  | [], group :: _ => .error ⟨.groupUnclosed, group.parenthesis⟩
  | [], [] =>
    let content := reading.level.content stop
    match content.spine.fault? <|> reading.late with
    | some fault => .error fault
    | none => .ok content.expr

end Reading

/-- The expression that a text spells, or the fault that is reported about the text. -/
def Expr.read (text : List Char) : Except Fault Expr := do
  (← Reading.run 0 0 text .initial).finish text.length

end TextTemplate
