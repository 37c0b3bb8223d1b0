import TextTemplate.Expr.Basic
import TextTemplate.Unicode.Encoding

/-!
# The shape of an expression

An expression is simplified before an automaton is made for it: what follows each other is one
sequence, characters in a row are one literal text, alternatives of alternatives are alternatives,
alternatives of one character each are a set, and what all alternatives start with is taken out.
The simplified form, the shape, covers the same stretches of a text; it only matters for the size of
the automaton. -/

namespace TextTemplate

/-- A simplified expression. A literal text is not empty. `chars` is one character of some
intervals, of which there are none or which hold several characters, with the sequences of bytes
that encode them. The `first` part of a sequence is neither empty nor a sequence, and the `rest` is
not empty. There are at least two `words`, and the `first` of other alternatives has none itself. -/
inductive Shape
  | empty
  | literal (text : List Char)
  | chars (intervals : List (Nat × Nat)) (encodings : List (List Unicode.ByteRange))
  | look (assertion : Assertion)
  | repeated (least : Nat) (most : Option Nat) (lazy : Bool) (body : Shape)
  | captured (body : Shape)
  | inOrder (first rest : Shape)
  | words (texts : List (List Char))
  | either (first rest : Shape)
deriving Repr

namespace Shape

/-! ## Sequences and sets -/

def followedBy : (first rest : Shape) → Shape
  | empty, rest => rest
  | inOrder first second, rest => first.followedBy (second.followedBy rest)
  | literal text, empty => literal text
  | literal text, literal more => literal (text ++ more)
  | literal text, inOrder (literal more) rest => inOrder (literal (text ++ more)) rest
  | first, empty => first
  | first, rest => inOrder first rest

def parts : Shape → List Shape
  | empty => []
  | inOrder first rest => first :: rest.parts
  | shape => [shape]

def ofParts (parts : List Shape) : Shape := parts.foldr followedBy empty

/-- One character of some intervals; a single character is a literal text. -/
def ofIntervals (intervals : List (Nat × Nat)) : Shape :=
  match intervals with
  | [(first, last)] =>
    if first = last then literal [Char.ofNat first]
    else chars intervals (Unicode.Encoding.sequences (first, last))
  | _ => chars intervals (intervals.flatMap Unicode.Encoding.sequences)

/-! ## Lengths -/

/-- The least number of bytes that the shape describes; there is none if it describes nothing. -/
def least? : Shape → Option Nat
  | empty => some 0
  | literal text => some ((text.map Char.utf8Size).sum)
  | chars intervals _ => intervals.head?.map fun interval => (Char.ofNat interval.1).utf8Size
  | look _ => some 0
  | repeated least _ _ body => body.least?.map (· * least)
  | captured body => body.least?
  | inOrder first rest => return (← first.least?) + (← rest.least?)
  | words texts => (texts.map fun text => (text.map Char.utf8Size).sum).min?
  | either first rest => return min (← first.least?) (← rest.least?)

/-- Whether the shape describes only the empty text. -/
def isEmptyOnly : Shape → Bool
  | empty => true
  | literal _ => false
  | chars _ _ => false
  | look _ => true
  | repeated _ most _ body => most.isSome && body.isEmptyOnly
  | captured body => body.isEmptyOnly
  | inOrder first rest => first.isEmptyOnly && rest.isEmptyOnly
  | words _ => false
  | either first rest => first.isEmptyOnly && rest.isEmptyOnly

/-- A repetition. What describes only the empty text is not repeated more than once, and what is
repeated exactly once is not repeated at all. -/
def rounds (least : Nat) (most : Option Nat) (lazy : Bool) (body : Shape) : Shape :=
  let (least, most) := if body.isEmptyOnly then (min least 1, some ((most.map (min 1)).getD 1))
    else (least, most)
  if most = some 0 then empty
  else if least = 1 && most == some 1 then body
  else repeated least most lazy body

/-! ## Alternatives -/

/-- Whether two shapes are the same. No two captured texts are. -/
def isSame : Shape → Shape → Bool
  | empty, empty => true
  | literal text, literal other => text == other
  | chars intervals _, chars others _ => intervals == others
  | look assertion, look other => assertion == other
  | repeated least most lazy body, repeated least' most' lazy' body' =>
    least == least' && most == most' && lazy == lazy' && body.isSame body'
  | inOrder first rest, inOrder first' rest' => first.isSame first' && rest.isSame rest'
  | words texts, words others => texts == others
  | either first rest, either first' rest' => first.isSame first' && rest.isSame rest'
  | _, _ => false

def alternatives : Shape → List Shape
  | words texts => texts.map literal
  | either first rest => first :: rest.alternatives
  | shape => [shape]

def text? : Shape → Option (List Char)
  | literal text => some text
  | _ => none

/-- The character of a shape that is a single one. -/
def char? : Shape → Option Char
  | literal [char] => some char
  | _ => none

def intervals? : Shape → Option (List (Nat × Nat))
  | chars intervals _ => some intervals
  | _ => none

/-- The shape of alternatives that have nothing in common. -/
def ofAlternatives : List Shape → Shape
  | [] => ofIntervals []
  | [shape] => shape
  | first :: rest => either first (ofAlternatives rest)

/-- The choice among some shapes, from which nothing is taken out. -/
def plainChoice (shapes : List Shape) : Shape :=
  let shapes := shapes.flatMap alternatives
  match shapes.mapM char? with
  | some single =>
    ofIntervals (single.foldl
      (fun found char => Unicode.Intervals.union [(char.toNat, char.toNat)] found) [])
  | none =>
    match shapes.mapM intervals? with
    | some sets => ofIntervals (sets.foldl Unicode.Intervals.union [])
    | none =>
      match shapes.mapM text? with
      | some texts => words texts
      | none => ofAlternatives shapes

/-- The parts that two sequences start with. -/
def commonParts : (left right : List Shape) → List Shape
  | first :: left, other :: right =>
    if first.isSame other then first :: commonParts left right else []
  | _, _ => []

/-- The parts of a shape that is a sequence of at least two. -/
def sequence? (shape : Shape) : Option (List Shape) :=
  match shape with
  | inOrder _ _ => some shape.parts
  | _ => none

/-- The choice among some shapes. If all of them are sequences, what they start with is taken
out. -/
def choice (shapes : List Shape) : Shape :=
  match plainChoice shapes with
  | either first rest =>
    match (either first rest).alternatives.mapM sequence? with
    | some (parts :: others) =>
      let common := others.foldl commonParts parts
      if common.isEmpty then either first rest
      else
        let behind := (parts :: others).map fun parts => ofParts (parts.drop common.length)
        (ofParts common).followedBy (plainChoice behind)
    | _ => either first rest
  | shape => shape

/-! ## From expressions -/

/-- How a shape is put together with others: before another one, and among alternatives before some
others. -/
structure Placing where
  before : Shape → Shape
  among : List Shape → List Shape

/-- How a shape that stands for itself is put together with others. -/
def Placing.alone (shape : Shape) : Placing := ⟨shape.followedBy, fun others => shape :: others⟩

/-- How the shape of an expression is put together with others. Groups that do not capture vanish,
and their content becomes a part or an alternative of what surrounds them. -/
def placing : Expr → Placing
  | .empty => .alone empty
  | .set set => .alone (ofIntervals set.intervals)
  | .look assertion => .alone (look assertion)
  | .seq first second =>
    let placeFirst := placing first
    let placeSecond := placing second
    ⟨fun rest => placeFirst.before (placeSecond.before rest),
      fun others => placeFirst.before (placeSecond.before empty) :: others⟩
  | .alt first second =>
    let placeFirst := placing first
    let placeSecond := placing second
    ⟨fun rest => (choice (placeFirst.among [placeSecond.before empty])).followedBy rest,
      fun others => placeFirst.among (placeSecond.before empty :: others)⟩
  | .rep least more lazy body =>
    .alone (rounds least (more.map (least + ·)) lazy ((placing body).before empty))
  | .group .plain body => .alone ((placing body).before empty)
  | .group _ body => .alone (captured ((placing body).before empty))

def ofExpr (expr : Expr) : Shape := (placing expr).before empty

end Shape

end TextTemplate
