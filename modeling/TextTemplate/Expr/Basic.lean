import TextTemplate.Expr.CharSet

/-!
# Expressions

An expression describes texts. This module holds the expressions themselves;
TextTemplate.Expr.Meaning says which stretches of a text an expression covers, and
TextTemplate.Expr.Search finds them. -/

namespace TextTemplate

/-- Which characters words are made of, where the border of a word is asked for: letters, marks,
decimal digits and connectors of all scripts, or ASCII letters, ASCII digits and the underscore. -/
inductive WordRule
  | unicode
  | ascii
deriving DecidableEq, Repr

/-- What is asked about the place between two characters. `either` asks that exactly one of them
belongs to a word, `inside` that both do or none does, `start` and `stop` that a word starts or ends
here, and the others that no word character comes before or follows. -/
inductive WordBorder
  | either
  | inside
  | start
  | stop
  | noneBefore
  | noneAfter
deriving DecidableEq, Repr

/-- A condition on a place in a text; `returns` tells whether carriage returns end lines too. -/
inductive Assertion
  | textStart
  | textEnd
  | lineStart (returns : Bool)
  | lineEnd (returns : Bool)
  | word (border : WordBorder) (rule : WordRule)
deriving DecidableEq, Repr

/-- What parentheses do with the text inside them: they hold it together, or they capture it, with
or without a name. -/
inductive GroupKind
  | plain
  | numbered
  | named (name : String)
deriving DecidableEq, Repr

/-- An expression. Of two alternatives the first one is preferred. A repetition takes `body` `least`
times and then at most `more` times, if there is a limit; `lazy` prefers few repetitions. -/
inductive Expr
  | empty
  | set (chars : CharSet)
  | look (assertion : Assertion)
  | seq (first second : Expr)
  | alt (first second : Expr)
  | rep (least : Nat) (more : Option Nat) (lazy : Bool) (body : Expr)
  | group (kind : GroupKind) (body : Expr)
deriving DecidableEq, Repr, Inhabited

namespace Expr

/-- The sequence of some expressions, given the last one first. -/
def sequence : List Expr → Expr
  | [] => empty
  | [expr] => expr
  | expr :: earlier => seq (sequence earlier) expr

/-- The choice among some expressions, given the last one first. -/
def choice : List Expr → Expr
  | [] => empty
  | [expr] => expr
  | expr :: earlier => alt (choice earlier) expr

/-- The names of the groups that capture, in the order of their opening parentheses, which is the
order of their numbers. A group may have a number only. -/
def captureNames : Expr → List (Option String)
  | empty | set _ | look _ => []
  | seq first second | alt first second => first.captureNames ++ second.captureNames
  | rep _ _ _ body | group .plain body => body.captureNames
  | group .numbered body => none :: body.captureNames
  | group (.named name) body => some name :: body.captureNames

end Expr

end TextTemplate
