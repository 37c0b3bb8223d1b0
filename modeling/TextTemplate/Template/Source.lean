import TextTemplate.Template.Token

/-!
# The expression of a template

A template is matched by an expression that is spelled from its tokens. Literal text is escaped; a
placeholder becomes a named group around as few characters as possible, which may be left out if the
placeholder has a default value. A validator is an expression of its own, which has to cover a
whole value. -/

namespace TextTemplate

def metaChars : List Char :=
  ['\\', '.', '+', '*', '?', '(', ')', '|', '[', ']', '\x7b', '\x7d', '^', '$', '#', '&', '-', '~']

/-- Spells a text so that an expression takes it as it is: a backslash stands before each character
with a meaning of its own. -/
def escapeText (text : List Char) : List Char :=
  text.flatMap fun char => if metaChars.contains char then ['\\', char] else [char]

/-- The expression text for a token; `hasDefault` tells which placeholders have a default value. -/
def Token.source (hasDefault : String → Bool) : Token → List Char
  | literal text => escapeText text.toList
  | placeholder name =>
    "(?P<".toList ++ name.toList ++ ">.*?)".toList ++ if hasDefault name then ['?'] else []
  | wildcard => ".+?".toList
  | word => "[0-9A-Za-z_]+?".toList

/-- The expression text for a template: its tokens between the start and the end of the text, where
the dot stands for line ends too. -/
def templateSource (hasDefault : String → Bool) (tokens : List Token) : List Char :=
  "(?s)^".toList ++ tokens.flatMap (Token.source hasDefault) ++ ['$']

/-- The expression text for a validator: the fragment in a group between the start and the end of
the text. -/
def validatorSource (fragment : List Char) : List Char :=
  "^(?:".toList ++ fragment ++ ")$".toList

/-- The first of some names that has occurred before it, where `seen` came before them all. -/
def firstRepeatedFrom? (seen : List String) : List String → Option String
  | [] => none
  | name :: names =>
    if seen.contains name then some name else firstRepeatedFrom? (name :: seen) names

/-- The first of some names that has occurred before it. -/
def firstRepeated? (names : List String) : Option String := firstRepeatedFrom? [] names

end TextTemplate
