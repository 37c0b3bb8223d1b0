import TextTemplate.Expr.Layout
import TextTemplate.Expr.Shape

/-!
# The weight of an expression

An expression is refused if one of the automata for it, the one that reads forwards and the one that
reads backwards, is larger than the limit. A plan lays out a part of an automaton behind what there
is already. -/

namespace TextTemplate

/-- A way to go on with a layout; there is no layout any more when it exceeds the limit. -/
abbrev Plan := Layout → Option Layout

namespace Plan

def andThen (first second : Plan) : Plan := fun layout => (first layout).bind second

def all (plans : List Plan) : Plan := plans.foldr andThen some

def times : (count : Nat) → Plan → Plan
  | 0, _, layout => some layout
  | count + 1, plan, layout =>
    match plan layout with
    | none => none
    | some layout => times count plan layout

/-- Goes on with a plan `count` times in a row; no time at all takes a state too. -/
def exactly (count : Nat) (plan : Plan) : Plan :=
  if count = 0 then Layout.addState else times count plan

/-- Lays out alternatives: the fork between them and the state where they meet come behind the first
two. -/
def choice : List Plan → Plan
  | [plan] => plan
  | plans =>
    all (plans.take 2 ++ [Layout.addFork plans.length, Layout.addState] ++ plans.drop 2)

/-- Lays out a repetition. `consumes` tells that no round is empty. -/
def rounds (least : Nat) (most : Option Nat) (consumes : Bool) (plan : Plan) : Plan :=
  let fork : Plan := Layout.addFork 2
  match least, most with
  | 0, some 1 => all [fork, plan, Layout.addState]
  | 0, none => if consumes then all [fork, plan] else all [plan, fork, fork, Layout.addState]
  | least, none => all [times least plan, fork]
  | least, some most =>
    if least = most then exactly least plan
    else all [exactly least plan, Layout.addState, times (most - least) (andThen fork plan)]

end Plan

/-! ## Words

Words that are alternatives are laid out as a tree: each of its nodes stands for the words with a
common start, by what is left of them in the order of the alternatives. -/

namespace Words

/-- The words that go on, divided by those that end: there is one more part than words that end. -/
def divide (words : List (List Nat)) : List (List (List Nat)) :=
  words.foldr
    (fun word chunks =>
      match word, chunks with
      | [], _ => [] :: chunks
      | _, chunk :: others => (word :: chunk) :: others
      | _, [] => [[word]])
    [[]]

/-- The first bytes of words, each of them once. -/
def firstBytes (words : List (List Nat)) : List Nat := (words.filterMap List.head?).eraseDups

/-- What follows a byte in the words that start with it. -/
def behind (byte : Nat) (words : List (List Nat)) : List (List Nat) :=
  words.filterMap fun word => if word.head? = some byte then word.tail? else none

/-- The words of which those that end before all others count as one. -/
def mergeEnds (words : List (List Nat)) : List (List Nat) :=
  if words.head? = some [] then [] :: words.dropWhile List.isEmpty else words

/-- The layout of the node for some words of at most `depth` bytes and of the nodes behind it. The
words of a part share a state that reads their first byte; a fork leads to these states and, for the
words that end, to the end. A node where no word goes on takes nothing. -/
def layout : (depth : Nat) → List (List Nat) → Layout
  | 0, _ => .empty
  | depth + 1, words =>
    if words.all List.isEmpty then .empty
    else
      let chunks := divide (mergeEnds words)
      let full := chunks.filter fun chunk => !chunk.isEmpty
      let here : Layout :=
        ⟨full.length + 1,
          Layout.referenceSize * (full.length + (chunks.length - 1)) +
            (full.map fun chunk => Layout.heldBy (firstBytes chunk).length).sum⟩
      full.foldl
        (fun found chunk =>
          (firstBytes chunk).foldl
            (fun found byte => found.beside (layout depth (behind byte chunk))) found)
        here

/-- Lays out words by their bytes, from the state where all of them end. -/
def plan (direction : Direction) (texts : List (List Char)) : Plan :=
  let words := texts.map fun text =>
    let bytes := text.flatMap fun char => Unicode.Encoding.bytes char.toNat
    match direction with
    | .forwards => bytes
    | .backwards => bytes.reverse
  let tree := layout ((words.map List.length).max?.getD 0) words
  Plan.all [Layout.addState, Layout.grow tree.states tree.held]

end Words

/-! ## Shapes -/

namespace Shape

/-- Whether the shape can only start where a condition holds. -/
def startsWith (assertion : Assertion) : Shape → Bool
  | look other => other = assertion
  | repeated least _ _ body => 0 < least && body.startsWith assertion
  | captured body => body.startsWith assertion
  | inOrder first rest =>
    first.startsWith assertion || first.isEmptyOnly && rest.startsWith assertion
  | either first rest => first.startsWith assertion && rest.startsWith assertion
  | _ => false

/-- Whether the shape can only end where a condition holds. -/
def endsWith (assertion : Assertion) : Shape → Bool
  | look other => other = assertion
  | repeated least _ _ body => 0 < least && body.endsWith assertion
  | captured body => body.endsWith assertion
  | inOrder first rest =>
    rest.endsWith assertion || rest.isEmptyOnly && first.endsWith assertion
  | either first rest => first.endsWith assertion && rest.endsWith assertion
  | _ => false

/-- How the alternatives of a shape are laid out. -/
def plans (direction : Direction) : Shape → List Plan
  | empty => [Layout.addState]
  | literal text => [Layout.grow (text.map Char.utf8Size).sum 0]
  | chars intervals encodings => [Layout.placeChars direction intervals encodings]
  | look _ => [Layout.addState]
  | repeated least most _ body =>
    [Plan.rounds least most (body.least?.any (0 < ·)) (Plan.choice (plans direction body))]
  | captured body =>
    match direction with
    | .forwards => [Plan.all [Layout.addState, Plan.choice (plans direction body), Layout.addState]]
    | .backwards => [Plan.choice (plans direction body)]
  | inOrder first rest =>
    let first := Plan.choice (plans direction first)
    let rest := Plan.choice (plans direction rest)
    match direction with
    | .forwards => [first.andThen rest]
    | .backwards => [rest.andThen first]
  | words texts => [Words.plan direction texts]
  | either first rest => Plan.choice (plans direction first) :: plans direction rest

/-- How the whole automaton for a shape is laid out. Unless it can only start where reading starts,
it begins with a loop over any bytes. -/
def plan (direction : Direction) (shape : Shape) : Plan :=
  let shapePlan := Plan.choice (shape.plans direction)
  let loop : Plan := Plan.all [Layout.addFork 2, Layout.addState, Layout.addTransitions 1]
  match direction with
  | .forwards =>
    Plan.all
      [if shape.startsWith .textStart then Layout.addState else loop,
        Layout.addState, shapePlan, Layout.addState, Layout.addState]
  | .backwards =>
    Plan.all
      [if shape.endsWith .textEnd then Layout.addState else loop, shapePlan, Layout.addState]

end Shape

/-- Whether an automaton for the expression exceeds the limit. -/
def Expr.isTooHeavy (expr : Expr) : Bool :=
  let shape := Shape.ofExpr expr
  [Direction.forwards, .backwards].any fun direction => (shape.plan direction .empty).isNone

end TextTemplate
