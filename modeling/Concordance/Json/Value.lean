import Concordance.Number.Numeral

/-!
# JSON values

A JSON value as it is written: numbers keep their digits and objects keep the order and the
repetitions of their members. What a number or a name means is for the reader of the value to
decide.

## Main definitions

* `Quoted`: what a string literal stands for
* `Json`: a value
* `Json.text`, `Json.count`, `Json.record`: values made from texts, natural numbers and members
-/

namespace Concordance

/-- What a string literal stands for: a text, or no text because an escape in it names half of a
surrogate pair without the other half. -/
inductive Quoted where
  | text (value : String)
  | unpaired
deriving DecidableEq, Repr, Inhabited

/-- The text of a literal, if it is one. -/
def Quoted.text? : Quoted → Option String
  | .text value => some value
  | .unpaired => none

/-- A JSON value as it is written. -/
inductive Json where
  | null
  | boolean (value : Bool)
  | number (numeral : Numeral)
  | string (literal : Quoted)
  | array (items : List Json)
  | object (members : List (Quoted × Json))
deriving Repr, Inhabited

namespace Json

/-- A text as a value. -/
def text (value : String) : Json :=
  .string (.text value)

/-- A natural number as a value. -/
def count (n : Nat) : Json :=
  .number (.ofNat n)

/-- An object with the given members. -/
def record (members : List (String × Json)) : Json :=
  .object (members.map fun (name, value) => (.text name, value))

end Json

end Concordance
