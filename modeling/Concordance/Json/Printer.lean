import Concordance.Json.Quoted

/-!
# Writing JSON

Files are written with one item or member a line, indented by two spaces for each open bracket,
and end with a newline. A value on one line has no white space at all.

## Main definitions

* `Json.pretty`: a value on indented lines
* `Json.compact`: a value on one line
-/

namespace Concordance

/-- The text of a string literal. Half a surrogate pair is written as the replacement character. -/
def Quoted.render : Quoted → List Char
  | .text value => '"' :: encode value.toList ++ ['"']
  | .unpaired => ['"', Char.ofNat 0xFFFD, '"']

namespace Json

/-- The start of a line inside `depth` brackets. -/
def newline (depth : Nat) : List Char :=
  '\n' :: List.replicate (2 * depth) ' '

mutual

/-- A value inside `depth` brackets, on indented lines. -/
def prettyAt (depth : Nat) : Json → List Char
  | .null => "null".toList
  | .boolean true => "true".toList
  | .boolean false => "false".toList
  | .number numeral => numeral.render
  | .string literal => literal.render
  | .array [] => ['[', ']']
  | .array (item :: rest) =>
    '[' :: newline (depth + 1) ++ prettyAt (depth + 1) item ++ prettyItems depth rest
  | .object [] => ['\x7b', '\x7d']
  | .object ((name, value) :: rest) =>
    '\x7b' :: newline (depth + 1) ++ name.render ++ [':', ' '] ++ prettyAt (depth + 1) value
      ++ prettyMembers depth rest

/-- The items of an array after its first one, and its closing bracket. -/
def prettyItems (depth : Nat) : List Json → List Char
  | [] => newline depth ++ [']']
  | item :: rest =>
    ',' :: newline (depth + 1) ++ prettyAt (depth + 1) item ++ prettyItems depth rest

/-- The members of an object after its first one, and its closing brace. -/
def prettyMembers (depth : Nat) : List (Quoted × Json) → List Char
  | [] => newline depth ++ ['\x7d']
  | (name, value) :: rest =>
    ',' :: newline (depth + 1) ++ name.render ++ [':', ' '] ++ prettyAt (depth + 1) value
      ++ prettyMembers depth rest

end

/-- A value as the text of a file. -/
def pretty (value : Json) : String :=
  String.ofList (prettyAt 0 value ++ ['\n'])

mutual

/-- A value in front of the rest of its line. -/
def compactBefore (tail : List Char) : Json → List Char
  | .null => "null".toList ++ tail
  | .boolean true => "true".toList ++ tail
  | .boolean false => "false".toList ++ tail
  | .number numeral => numeral.render ++ tail
  | .string literal => literal.render ++ tail
  | .array [] => '[' :: ']' :: tail
  | .array (item :: rest) => '[' :: compactBefore (compactItems tail rest) item
  | .object [] => '\x7b' :: '\x7d' :: tail
  | .object ((name, value) :: rest) =>
    '\x7b' :: name.render ++ ':' :: compactBefore (compactMembers tail rest) value

/-- The items of an array after its first one, its closing bracket and the rest of the line. -/
def compactItems (tail : List Char) : List Json → List Char
  | [] => ']' :: tail
  | item :: rest => ',' :: compactBefore (compactItems tail rest) item

/-- The members of an object after its first one, its closing brace and the rest of the line. -/
def compactMembers (tail : List Char) : List (Quoted × Json) → List Char
  | [] => '\x7d' :: tail
  | (name, value) :: rest =>
    ',' :: name.render ++ ':' :: compactBefore (compactMembers tail rest) value

end

/-- A value on one line. -/
def compact (value : Json) : String :=
  String.ofList (compactBefore [] value)

end Json

end Concordance
