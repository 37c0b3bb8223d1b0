import TextTemplate.Expr.Atom
import TextTemplate.Expr.Nesting

/-!
# Classes in brackets

A class in brackets is a set of characters put together from characters, ranges, other classes and
set operations. Brackets may stand inside brackets, so the reading keeps a list of those that are
still open, the innermost one first, and goes on by one member, operator or bracket at a time. -/

namespace TextTemplate

/-- An operation on sets that is written between members of a class: what both sides hold, what the
left side holds and the right one lacks, or what exactly one side holds. -/
inductive SetOp
  | inter
  | diff
  | symmDiff
deriving DecidableEq, Repr

def SetOp.apply : SetOp → CharSet → CharSet → CharSet
  | inter => .inter
  | diff => .diff
  | symmDiff => .symmDiff

/-- A part of a class in brackets: its set, its stretch of text and the levels of parts inside
it. -/
structure Member where
  set : CharSet
  span : Span
  spine : Spine
deriving DecidableEq, Repr

/-- Brackets that are still open, with the members behind the last operator, the last one first. -/
structure Bracket where
  start : Nat
  /-- The opening bracket and what belongs to it, which is marked if the brackets are not closed. -/
  opening : Span
  negated : Bool
  /-- The place where the members behind the last operator begin. -/
  first : Nat
  members : List Member
  /-- What stands before the last operator, with that operator. -/
  left : Option (SetOp × Member)
deriving DecidableEq, Repr

namespace Bracket

def add (member : Member) (bracket : Bracket) : Bracket :=
  { bracket with members := member :: bracket.members }

/-- The members behind the last operator as one part. -/
def right (bracket : Bracket) : Member :=
  match bracket.members with
  | [] => ⟨.empty, ⟨bracket.first, bracket.first⟩, []⟩
  | [member] => member
  | last :: earlier =>
    let members := (last :: earlier).reverse
    let span : Span := ⟨(members.head?.map (·.span.start)).getD bracket.first, last.span.stop⟩
    ⟨.ofList (members.map (·.set)), span, span :: Spine.mergeAll ((last :: earlier).map (·.spine))⟩

def content (flags : Flags) (bracket : Bracket) : Member :=
  let right := bracket.right
  match bracket.left with
  | none => right
  | some (op, left) =>
    let span : Span := ⟨left.span.start, right.span.stop⟩
    ⟨op.apply (flags.fold left.set) (flags.fold right.set), span,
      span :: Spine.merge left.spine right.spine⟩

/-- The brackets behind an operator, where new members begin at `first`. -/
def operate (flags : Flags) (op : SetOp) (first : Nat) (bracket : Bracket) : Bracket :=
  { bracket with first := first, members := [], left := some (op, bracket.content flags) }

/-- The class that the brackets enclose when they are closed before `stop`. -/
def close (flags : Flags) (stop : Nat) (bracket : Bracket) : Member × Option Fault :=
  let content := bracket.content flags
  let span : Span := ⟨bracket.start, stop⟩
  (⟨Atom.negate bracket.negated (flags.fold content.set), span, span :: content.spine⟩,
    if !flags.unicode && bracket.negated then some ⟨.brokenText, span⟩ else none)

def unclosed (bracket : Bracket) : Fault := ⟨.bracketUnclosed, bracket.opening⟩

/-- A character that stands for itself at the start of a class. -/
def literalMember (char : Char) (cursor : Cursor) : Member := ⟨.single char, cursor.sign, []⟩

/-- Reads the hyphens that stand for themselves at the start of a class; at most `limit` of them. -/
def readHyphens (extended : Bool) (start : Nat) : (limit : Nat) → List Member → Cursor →
    Except Fault (List Member × Cursor)
  | 0, members, cursor => .ok (members, cursor)
  | limit + 1, members, cursor =>
    if cursor.peek? = some '-' then
      let after := cursor.advance extended
      if after.rest.isEmpty then .error ⟨.bracketUnclosed, ⟨start, start⟩⟩
      else readHyphens extended start limit (literalMember '-' cursor :: members) after
    else .ok (members, cursor)

/-- Reads an opening bracket with the sign of negation, the hyphens and the closing bracket behind
it that belong to the class. -/
def readOpening (extended : Bool) (cursor : Cursor) : Except Fault (Bracket × Cursor) := do
  let start := cursor.offset
  let inside := cursor.advance extended
  if inside.rest.isEmpty then throw ⟨.bracketUnclosed, inside.since start⟩
  let negated := inside.peek? == some '^'
  let begin := if negated then inside.advance extended else inside
  if begin.rest.isEmpty then throw ⟨.bracketUnclosed, begin.since start⟩
  let (hyphens, behind) ← readHyphens extended start begin.rest.length [] begin
  if hyphens.isEmpty && behind.peek? == some ']' then
    let after := behind.advance extended
    if after.rest.isEmpty then throw ⟨.bracketUnclosed, after.since start⟩
    return (⟨start, after.since start, negated, begin.offset, [literalMember ']' behind], none⟩,
      after)
  else return (⟨start, behind.since start, negated, begin.offset, hyphens, none⟩, behind)

/-- Reads an ASCII class by name, such as [:alpha:], with the caret that negates it. -/
def readNamed? (cursor : Cursor) : Option (CharSet × Bool × Cursor) :=
  if ['[', ':'].isPrefixOf cursor.rest then
    let inside := cursor.drop 2
    let negated := inside.peek? == some '^'
    let begin := if negated then inside.next else inside
    let (name, after) := begin.takeWhile false (· ≠ ':')
    if [':', ']'].isPrefixOf after.rest then
      (CharSet.named? (String.ofList name)).map fun set => (set, negated, after.drop 2)
    else none
  else none

/-- What one step of the reading leads to: the brackets that are open then, the innermost one first,
the class when the outermost ones have been closed, and a fault to be reported if the rest of the
text has none. -/
structure Progress where
  brackets : List Bracket
  closed : Option Member
  late : Option Fault
deriving DecidableEq, Repr

def readMember (flags : Flags) (bracket : Bracket) (outer : List Bracket) (cursor : Cursor) :
    Except Fault (Progress × Cursor) := do
  let extended := flags.extended
  let (first, afterFirst) ← Atom.readMember extended cursor
  let behind := afterFirst.skip extended
  if behind.rest.isEmpty then throw bracket.unclosed
  if behind.peek? ≠ some '-' ∨ behind.peekBehind? extended = some ']' ∨
      behind.peekBehind? extended = some '-' then
    let (set, late) ← first.toSet flags
    return (⟨bracket.add ⟨set, first.span, []⟩ :: outer, none, late⟩, behind)
  let other := behind.advance extended
  if other.rest.isEmpty then throw bracket.unclosed
  let (last, afterLast) ← Atom.readMember extended other
  let (low, lateLow) ← first.toRangeEnd flags
  let (high, lateHigh) ← last.toRangeEnd flags
  let span : Span := ⟨first.span.start, last.span.stop⟩
  if high < low then throw ⟨.rangeOrder, span⟩
  return (⟨bracket.add ⟨.range low high, span, []⟩ :: outer, none, lateLow <|> lateHigh⟩, afterLast)

/-- Reads the next sign inside brackets: a class by name, brackets, an operator or a member. -/
def step (flags : Flags) (bracket : Bracket) (outer : List Bracket) (cursor : Cursor) :
    Except Fault (Progress × Cursor) :=
  match cursor.rest with
  | '[' :: _ =>
    match readNamed? cursor with
    | some (set, negated, after) =>
      let span := after.since cursor.offset
      let member : Member := ⟨Atom.negate negated (flags.fold set), span, []⟩
      let late := if !flags.unicode && negated then some ⟨.brokenText, span⟩ else none
      .ok (⟨bracket.add member :: outer, none, late⟩, after)
    | none => do
      let (inner, after) ← readOpening flags.extended cursor
      return (⟨inner :: bracket :: outer, none, none⟩, after)
  | ']' :: _ =>
    let (member, late) := bracket.close flags cursor.next.offset
    match outer with
    | [] => .ok (⟨[], some member, late⟩, cursor.next)
    | parent :: others => .ok (⟨parent.add member :: others, none, late⟩, cursor.next)
  | '&' :: '&' :: _ =>
    .ok (⟨bracket.operate flags .inter (cursor.drop 2).offset :: outer, none, none⟩, cursor.drop 2)
  | '-' :: '-' :: _ =>
    .ok (⟨bracket.operate flags .diff (cursor.drop 2).offset :: outer, none, none⟩, cursor.drop 2)
  | '~' :: '~' :: _ =>
    .ok (⟨bracket.operate flags .symmDiff (cursor.drop 2).offset :: outer, none, none⟩,
      cursor.drop 2)
  | _ => readMember flags bracket outer cursor

end Bracket

end TextTemplate
