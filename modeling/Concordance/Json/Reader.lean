import Concordance.Json.Token

/-!
# Reading JSON

A value is built from its tokens in one pass. The arrays and objects that are still open are kept
in a list, innermost first.

## Main definitions

* `Json.Frame`: an array or object that is still open
* `Json.read`: the value that a text is
-/

namespace Concordance.Json

/-- An array or object that is still open, with what it holds so far, last first. -/
inductive Frame where
  | items (reversed : List Json)
  | members (reversed : List (Quoted × Json)) (name : Quoted)
deriving Repr

/-- What may come next. -/
inductive Expectation where
  | value
  | firstItem
  | firstName
  | name (members : List (Quoted × Json))
  | colon (members : List (Quoted × Json)) (name : Quoted)
  | done (value : Json)
deriving Repr

/-- The value that the rest of the tokens completes. -/
def build : List Frame → Expectation → List Token → Option Json
  | [], .done value, [] => some value
  | _, _, [] => none
  | frames, .value, token :: rest =>
    match token with
    | .mark .openArray => build frames .firstItem rest
    | .mark .openObject => build frames .firstName rest
    | token => do build frames (.done (← token.atom)) rest
  | frames, .firstItem, token :: rest =>
    match token with
    | .mark .closeArray => build frames (.done (.array [])) rest
    | .mark .openArray => build (.items [] :: frames) .firstItem rest
    | .mark .openObject => build (.items [] :: frames) .firstName rest
    | token => do build (.items [] :: frames) (.done (← token.atom)) rest
  | frames, .firstName, token :: rest =>
    match token with
    | .mark .closeObject => build frames (.done (.object [])) rest
    | .quoted name => build frames (.colon [] name) rest
    | _ => none
  | frames, .name members, token :: rest =>
    match token with
    | .quoted name => build frames (.colon members name) rest
    | _ => none
  | frames, .colon members name, token :: rest =>
    if token = .mark .colon then build (.members members name :: frames) .value rest else none
  | [], .done _, _ :: _ => none
  | .items items :: frames, .done value, token :: rest =>
    match token with
    | .mark .comma => build (.items (value :: items) :: frames) .value rest
    | .mark .closeArray => build frames (.done (.array (value :: items).reverse)) rest
    | _ => none
  | .members members name :: frames, .done value, token :: rest =>
    match token with
    | .mark .comma => build frames (.name ((name, value) :: members)) rest
    | .mark .closeObject => build frames (.done (.object ((name, value) :: members).reverse)) rest
    | _ => none

/-- The value that a text is. -/
def read (text : String) : Option Json := do
  build [] .value (← tokens text.toList)

end Concordance.Json
