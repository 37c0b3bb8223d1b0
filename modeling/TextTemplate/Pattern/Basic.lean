import TextTemplate.Bindings
import TextTemplate.Expr.Compile
import TextTemplate.Expr.Search
import TextTemplate.Pattern.Event
import TextTemplate.Template.Source

/-!
# Patterns

A pattern is a template with validators and default values for its placeholders. It is compiled
once for a configuration and then matched with any number of subjects. -/

namespace TextTemplate

/-- Why a pattern cannot be compiled: two placeholders have one name, or the expression of the
template or a validator of a placeholder cannot be compiled. -/
inductive PatternError
  | duplicatePlaceholder (name : String)
  | template (error : CompileError)
  | validator (name : String) (error : CompileError)
deriving DecidableEq, Repr

def PatternError.message : PatternError → String
  | duplicatePlaceholder name => s!"placeholder '{name}' appears more than once in the template"
  | template error => s!"failed to compile template: {error.message}"
  | validator name error => s!"invalid validator for '{name}': {error.message}"

inductive MatchResult
  | matched (values : Bindings)
  | unmatched
deriving DecidableEq, Repr

namespace MatchResult

def isMatched : MatchResult → Bool
  | matched _ => true
  | unmatched => false

def values? : MatchResult → Option Bindings
  | matched values => some values
  | unmatched => none

/-- The values of a match, in the order of their names. -/
def entries? (result : MatchResult) : Option (List (String × String)) :=
  result.values?.map (·.entries)

@[simp] theorem entries?_matched (values : Bindings) :
    (matched values).entries? = some values.entries := rfl

@[simp] theorem entries?_unmatched : unmatched.entries? = none := rfl

end MatchResult

/-- A compiled pattern: the text of the template's expression, the expression, and the validators of
placeholders, in template order. -/
structure Compiled where
  source : String
  expr : Expr
  validators : List (String × Expr)
deriving DecidableEq, Repr

/-- Compiles the validators of some placeholders, in their order. -/
def compileValidators (validators : Bindings) :
    List String → Except PatternError (List (String × Expr))
  | [] => .ok []
  | name :: names =>
    match validators.find? name with
    | none => compileValidators validators names
    | some fragment =>
      match Expr.compile (validatorSource fragment.toList) with
      | .error error => .error (.validator name error)
      | .ok expr => do return (name, expr) :: (← compileValidators validators names)

namespace Compiled

/-- Compiles a template with validators and default values. Of several errors the one reported is
that of the placeholders' names, else that of the template, else that of the first validator in
template order. -/
def ofTemplate (template : String) (validators defaults : Bindings) :
    Except PatternError Compiled := do
  let tokens := tokenize template
  let names := placeholderNames tokens
  if let some name := firstRepeated? names then throw (.duplicatePlaceholder name)
  let source := templateSource defaults.contains tokens
  match Expr.compile source with
  | .error error => throw (.template error)
  | .ok expr =>
    let validators ← compileValidators validators names
    return ⟨String.ofList source, expr, validators⟩

/-- The names of the groups that capture, in the order of the groups. -/
def names (compiled : Compiled) : List String := compiled.expr.captureNames.filterMap id

def textBetween (subject : Array Char) (start stop : Nat) : String :=
  String.ofList (subject.extract start stop).toList

/-- The values that placeholders have captured, in the order of `names`. A placeholder that has
captured nothing, or the empty text, has none. -/
def capturedValues (subject : Array Char) (captures : List Capture) (names : List String) :
    List (String × String) :=
  names.filterMap fun name =>
    match captures.find? fun capture => capture.name = name with
    | some capture =>
      let value := textBetween subject capture.start capture.stop
      if value.isEmpty then none else some (name, value)
    | none => none

/-- Whether the validator of a placeholder, if there is one, accepts a value. -/
def accepts (compiled : Compiled) (name value : String) : Bool :=
  match compiled.validators.lookup name with
  | none => true
  | some validator => validator.isMatch value.toList.toArray

/-- The first of some values that its validator rejects. -/
def firstRejected? (compiled : Compiled) (values : List (String × String)) : Option Rejection :=
  (values.find? fun (name, value) => !compiled.accepts name value).map
    fun (name, value) => ⟨name, value⟩

/-- Matches a whole subject. If the template's expression covers it and no validator rejects a
value, the result holds the default values, replaced by the captured ones; a rejection is given
along with the result. -/
def extract (compiled : Compiled) (defaults : Bindings) (subject : String) :
    MatchResult × Option Rejection :=
  let text := subject.toList.toArray
  match compiled.expr.captures? text with
  | none => (.unmatched, none)
  | some captures =>
    let values := capturedValues text captures compiled.names
    match compiled.firstRejected? values with
    | some rejection => (.unmatched, some rejection)
    | none =>
      let bindings :=
        values.foldl (fun bindings (name, value) => bindings.insert name value) defaults
      (.matched bindings, none)

end Compiled

/-- A template with its configuration. The compiled form is kept from the first use on, until the
configuration is changed. -/
structure Pattern where
  template : String
  validators : Bindings
  defaults : Bindings
  compiled : Option Compiled
deriving DecidableEq, Repr

namespace Pattern

/-- A template without validators and default values. -/
def ofTemplate (template : String) : Pattern := ⟨template, .empty, .empty, none⟩

/-- Sets the validator of a name, in place of the one that it had. -/
def addValidator (name fragment : String) (pattern : Pattern) : Pattern :=
  { pattern with validators := pattern.validators.insert name fragment, compiled := none }

/-- Sets the default value of a name, in place of the one that it had. -/
def addDefault (name value : String) (pattern : Pattern) : Pattern :=
  { pattern with defaults := pattern.defaults.insert name value, compiled := none }

/-- The names of the placeholders, in template order and with repetitions. -/
def placeholders (pattern : Pattern) : List String := placeholderNames (tokenize pattern.template)

def compile (pattern : Pattern) : Except PatternError Compiled :=
  Compiled.ofTemplate pattern.template pattern.validators pattern.defaults

/-- The outcome of using a pattern: what was asked for, the pattern with its compiled form kept, and
what was reported. -/
structure Use (Outcome : Type) where
  outcome : Outcome
  pattern : Pattern
  events : List Event

/-- The compiled form. It is made and reported if it is not there yet; a failure is not kept. -/
def prepare (pattern : Pattern) : Use (Except PatternError Compiled) :=
  match pattern.compiled with
  | some compiled => ⟨.ok compiled, pattern, []⟩
  | none =>
    match pattern.compile with
    | .error error => ⟨.error error, pattern, []⟩
    | .ok compiled =>
      ⟨.ok compiled, { pattern with compiled := some compiled },
        [.compiled pattern.template compiled.source compiled.validators.length]⟩

/-- The text of the expression that the template is matched by. -/
def source (pattern : Pattern) : Use (Except PatternError String) :=
  let use := pattern.prepare
  ⟨use.outcome.map (·.source), use.pattern, use.events⟩

/-- Matches a subject and extracts the values of the placeholders. -/
def extract (subject : String) (pattern : Pattern) : Use (Except PatternError MatchResult) :=
  let use := pattern.prepare
  match use.outcome with
  | .error error => ⟨.error error, use.pattern, use.events⟩
  | .ok compiled =>
    let (result, rejection) := compiled.extract use.pattern.defaults subject
    ⟨.ok result, use.pattern, use.events ++ rejection.toList.map .rejected⟩

/-- Whether a subject matches. -/
def isMatch (subject : String) (pattern : Pattern) : Use (Except PatternError Bool) :=
  let use := pattern.extract subject
  ⟨use.outcome.map (·.isMatched), use.pattern, use.events⟩

end Pattern

end TextTemplate
