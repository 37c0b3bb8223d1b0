import TextTemplate.Pattern.Basic

/-!
# Sessions

A session applies steps to a pattern, one after the other. Patterns can be saved with their
compiled form and taken back later, the last one saved first. -/

namespace TextTemplate

/-- A step of a session. One sets a validator or a default value, some ask something of the pattern,
and the others save the pattern or take back the one saved last. -/
inductive Step
  | validator (name fragment : String)
  | default (name value : String)
  | extract (subject : String)
  | isMatch (subject : String)
  | source
  | placeholders
  | template
  | save
  | restore
deriving DecidableEq, Repr

/-- The answer to a step. A step that saves the pattern is told the number of saved ones. -/
inductive Reply
  | done
  | result (result : MatchResult)
  | truth (value : Bool)
  | text (text : String)
  | names (names : List String)
  | saved (count : Nat)
  | nothingSaved
  | failed (error : PatternError)
deriving DecidableEq, Repr

def Reply.ofExcept {Outcome : Type} (reply : Outcome → Reply) : Except PatternError Outcome → Reply
  | .ok outcome => reply outcome
  | .error error => .failed error

/-- A session: the pattern in use and the saved ones, the last one first. -/
structure Session where
  current : Pattern
  saved : List Pattern
deriving DecidableEq, Repr

/-- What one step leads to: the answer, what was reported, in order, and the session after the
step. -/
structure Turn where
  reply : Reply
  events : List Event
  session : Session
deriving DecidableEq, Repr

namespace Session

/-- The session that starts with a template. -/
def ofTemplate (template : String) : Session := ⟨.ofTemplate template, []⟩

def turn {Outcome : Type} (session : Session) (reply : Outcome → Reply)
    (use : Pattern.Use (Except PatternError Outcome)) : Turn :=
  ⟨.ofExcept reply use.outcome, use.events, { session with current := use.pattern }⟩

def step (session : Session) : Step → Turn
  | .validator name fragment =>
    ⟨.done, [], { session with current := session.current.addValidator name fragment }⟩
  | .default name value =>
    ⟨.done, [], { session with current := session.current.addDefault name value }⟩
  | .extract subject => session.turn .result (session.current.extract subject)
  | .isMatch subject => session.turn .truth (session.current.isMatch subject)
  | .source => session.turn .text session.current.source
  | .placeholders => ⟨.names session.current.placeholders, [], session⟩
  | .template => ⟨.text session.current.template, [], session⟩
  | .save =>
    let saved := session.current :: session.saved
    ⟨.saved saved.length, [], { session with saved := saved }⟩
  | .restore =>
    match session.saved with
    | [] => ⟨.nothingSaved, [], session⟩
    | pattern :: saved => ⟨.saved saved.length, [], ⟨pattern, saved⟩⟩

def run (session : Session) : List Step → List Turn
  | [] => []
  | step :: steps =>
    let turn := session.step step
    turn :: turn.session.run steps

end Session

end TextTemplate
