import Concordance.Json.Quoted

/-!
# Tokens of JSON

A text is cut into brackets and marks, bare words, and what stands between quotes. White space
ends a bare word and is dropped.

## Main definitions

* `Json.Token`: a token
* `Json.tokens`: the tokens of a text
* `Json.Token.atom`: the value that is a single token
-/

namespace Concordance.Json

/-- The brackets and marks of JSON. -/
inductive Mark where
  | openArray
  | closeArray
  | openObject
  | closeObject
  | comma
  | colon
deriving DecidableEq, Repr

/-- A token. -/
inductive Token where
  | mark (m : Mark)
  | word (letters : List Char)
  | quoted (literal : Quoted)
deriving DecidableEq, Repr

/-- The mark that a character is. -/
def markOf (c : Char) : Option Mark :=
  match c with
  | '[' => some .openArray
  | ']' => some .closeArray
  | '\x7b' => some .openObject
  | '\x7d' => some .closeObject
  | ',' => some .comma
  | ':' => some .colon
  | _ => none

/-- The white space of JSON. -/
def isBlank (c : Char) : Bool :=
  c ∈ [' ', '\t', '\n', '\r']

/-- Where in a token the next character stands. -/
inductive Place where
  | between
  | inWord (reversed : List Char)
  | inQuotes (reversed : List Char) (afterBackslash : Bool)
deriving Repr

/-- The word that ends where the next character stands, if there is one. -/
def Place.closed : Place → List Token
  | .inWord letters => [.word letters.reverse]
  | _ => []

/-- The tokens of the rest of a text. -/
def tokensFrom : Place → List Char → Option (List Token)
  | .inQuotes _ _, [] => none
  | .between, [] => some []
  | .inWord letters, [] => some [.word letters.reverse]
  | .inQuotes body true, c :: rest => tokensFrom (.inQuotes (c :: body) false) rest
  | .inQuotes body false, c :: rest =>
    if c = '"' then do
      let literal ← Quoted.decode body.reverse
      (tokensFrom .between rest).map (.quoted literal :: ·)
    else tokensFrom (.inQuotes (c :: body) (c == '\\')) rest
  | .between, c :: rest =>
    if c = '"' then tokensFrom (.inQuotes [] false) rest
    else if isBlank c then tokensFrom .between rest
    else match markOf c with
      | some m => (tokensFrom .between rest).map (.mark m :: ·)
      | none => tokensFrom (.inWord [c]) rest
  | .inWord letters, c :: rest =>
    if c = '"' then (tokensFrom (.inQuotes [] false) rest).map (.word letters.reverse :: ·)
    else if isBlank c then (tokensFrom .between rest).map (.word letters.reverse :: ·)
    else match markOf c with
      | some m => (tokensFrom .between rest).map (fun more => .word letters.reverse :: .mark m :: more)
      | none => tokensFrom (.inWord (c :: letters)) rest

/-- The tokens of a text. -/
def tokens (text : List Char) : Option (List Token) :=
  tokensFrom .between text

/-- The value that a bare word is. -/
def ofWord (letters : List Char) : Option Json :=
  if letters = "null".toList then some .null
  else if letters = "true".toList then some (.boolean true)
  else if letters = "false".toList then some (.boolean false)
  else (Numeral.read letters).map .number

/-- The value that is a single token. -/
def Token.atom : Token → Option Json
  | .mark _ => none
  | .word letters => ofWord letters
  | .quoted literal => some (.string literal)

end Concordance.Json
