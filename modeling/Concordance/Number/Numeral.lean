/-!
# Numerals

The written form of a number: digits, perhaps a point with more digits, perhaps an exponent.

## Main definitions

* `Numeral`: a number as it is written
* `Numeral.render`: its text
* `Numeral.read`: the numeral that is a text
* `Numeral.ofNat`: a natural number as a numeral
* `digitsValue`: the number that a list of digits stands for
-/

namespace Concordance

/-- A number as it is written. The fraction is there if a point is, and the exponent is the text
after the letter e, sign included. -/
structure Numeral where
  negative : Bool
  integer : List Char
  fraction : Option (List Char)
  exponent : Option (List Char)
deriving DecidableEq, Repr, Inhabited

/-- The number that digits stand for, put after the digits of `start`. -/
def digitsValueFrom (start : Nat) (digits : List Char) : Nat :=
  digits.foldl (fun value c => value * 10 + (c.toNat - '0'.toNat)) start

/-- The number that a list of digits stands for. -/
def digitsValue (digits : List Char) : Nat :=
  digitsValueFrom 0 digits

namespace Numeral

/-- A natural number in digits. -/
def ofNat (n : Nat) : Numeral :=
  ⟨false, Nat.toDigits 10 n, none, none⟩

/-- The text of a numeral. -/
def render (numeral : Numeral) : List Char :=
  (if numeral.negative then ['-'] else []) ++ numeral.integer ++
    (match numeral.fraction with
      | some digits => '.' :: digits
      | none => []) ++
    (match numeral.exponent with
      | some text => 'e' :: text
      | none => [])

/-- Whether a text is one or more digits. -/
def isDigits (text : List Char) : Bool :=
  !text.isEmpty && text.all Char.isDigit

/-- Whether a text is an integer part: digits that start with a zero only if it is the only one. -/
def isInteger (text : List Char) : Bool :=
  isDigits text && (text.head? != some '0' || text.length == 1)

/-- The sign and the digits of an exponent. -/
def splitExponent (text : List Char) : Bool × List Char :=
  match text with
  | '-' :: digits => (true, digits)
  | '+' :: digits => (false, digits)
  | digits => (false, digits)

/-- The numeral that is a text, if each of its parts has the right form. -/
def read (text : List Char) : Option Numeral :=
  let negative := text.head? == some '-'
  let unsigned := if negative then text.tail else text
  let mantissa := unsigned.takeWhile fun c => c != 'e' && c != 'E'
  let exponent := match unsigned.dropWhile fun c => c != 'e' && c != 'E' with
    | [] => none
    | _ :: text => some text
  let integer := mantissa.takeWhile (· != '.')
  let fraction := match mantissa.dropWhile (· != '.') with
    | [] => none
    | _ :: text => some text
  let exponentDigits := exponent.map fun text => (splitExponent text).2
  if isInteger integer && fraction.all isDigits && exponentDigits.all isDigits then
    some ⟨negative, integer, fraction, exponent⟩
  else none

/-- Whether a numeral is a whole number without sign, point or exponent. -/
def isPlain (numeral : Numeral) : Bool :=
  !numeral.negative && numeral.fraction.isNone && numeral.exponent.isNone

end Numeral

end Concordance
