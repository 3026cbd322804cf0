import Concordance.Json.Quoted
import Concordance.Markup.Span

/-!
# Character references

A reference stands for a character, by its number or by its name. A number that is no character
and a name that is not known stand for nothing.

## Main definitions

* `referenceLength`: the length of the reference that a text starts with
* `decodeReference`: the character that a reference stands for
* `decodeReferences`: a text with its references decoded
-/

namespace Concordance.Markup

/-- A hexadecimal digit. -/
def isHexDigit (c : Char) : Bool :=
  c.isDigit || ('a' ≤ c && c ≤ 'f') || ('A' ≤ c && c ≤ 'F')

/-- The length of a run of characters that is not empty and ends with a semicolon, that included. -/
def terminatedLength (p : Char → Bool) (text : List Char) : Nat :=
  let length := lengthWhile p text
  if 0 < length ∧ (text.drop length).head? = some ';' then length + 1 else 0

/-- The length of a whole that starts with `lead` characters before a part; zero if there is no
such part. -/
def afterLead (lead part : Nat) : Nat :=
  if part = 0 then 0 else lead + part

/-- The length of the reference that a text starts with. -/
def referenceLength (text : List Char) : Nat :=
  match text with
  | '&' :: '#' :: 'x' :: rest => afterLead 3 (terminatedLength isHexDigit rest)
  | '&' :: '#' :: 'X' :: rest => afterLead 3 (terminatedLength isHexDigit rest)
  | '&' :: '#' :: rest => afterLead 2 (terminatedLength Char.isDigit rest)
  | '&' :: rest => afterLead 1 (terminatedLength Char.isAlphanum rest)
  | _ => 0

/-- The number that hexadecimal digits stand for. -/
def hexValue (digits : List Char) : Nat :=
  digits.foldl (fun value c => value * 16 + (Quoted.hexDigit c).getD 0) 0

/-- The character with a number, if there is one. -/
def characterOf (number : Nat) : List Char :=
  if number.isValidChar then [Char.ofNat number] else []

/-- The named characters. -/
def namedCharacters : List (List Char × Char) :=
  [("amp".toList, '&'), ("lt".toList, '<'), ("gt".toList, '>'), ("quot".toList, '"'),
    ("apos".toList, '\''), ("nbsp".toList, ' ')]

/-- What a reference stands for, given what is between its ampersand and its semicolon. -/
def decodeBody (body : List Char) : List Char :=
  match body with
  | '#' :: 'x' :: digits => characterOf (hexValue digits)
  | '#' :: 'X' :: digits => characterOf (hexValue digits)
  | '#' :: digits => characterOf (digitsValue digits)
  | name => ((namedCharacters.find? (·.1 == name)).map (·.2)).toList

/-- What a reference stands for. -/
def decodeReference (reference : List Char) : List Char :=
  decodeBody (reference.drop 1).dropLast

/-- A text with its references decoded, each of them once. -/
def decodeReferences (text : List Char) : List Char :=
  replaceSpans referenceLength decodeReference text

end Concordance.Markup
