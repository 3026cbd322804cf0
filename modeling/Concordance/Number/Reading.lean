import Concordance.Number.Binary64
import Concordance.Number.Numeral

/-!
# Reading decimals

The number nearest to a decimal text.

## Main definitions

* `Binary64.ofDecimal`: the number nearest to a coefficient times a power of ten
* `Binary64.read`: the number that a text stands for
-/

namespace Concordance

namespace Binary64

/-- The number nearest to `coefficient * 10 ^ exponent`. A coefficient of few digits times a huge
power is infinite, or zero, without working the power out. -/
def ofDecimal (coefficient : Nat) (exponent : Int) : Binary64 :=
  let place := (Nat.toDigits 10 coefficient).length + exponent
  if coefficient = 0 ∨ place < -400 then zero
  else if 400 < place then infinity
  else ofRatio (coefficient * Nat.pow 10 exponent.toNat) (Nat.pow 10 (-exponent).toNat)

/-- An integer in digits, perhaps with a sign. -/
def readInteger (text : List Char) : Option Int :=
  let (negative, digits) := Numeral.splitExponent text
  if Numeral.isDigits digits then
    some (if negative then -(digitsValue digits : Int) else digitsValue digits)
  else none

/-- A number without a sign: digits with or without a point, and perhaps an exponent. -/
def readDigits (text : List Char) : Option Binary64 :=
  let mantissa := text.takeWhile fun c => c != 'e' && c != 'E'
  let exponent := match text.dropWhile fun c => c != 'e' && c != 'E' with
    | [] => some 0
    | _ :: text => readInteger text
  let whole := mantissa.takeWhile (· != '.')
  let fraction := (mantissa.dropWhile (· != '.')).drop 1
  if Numeral.isDigits (whole ++ fraction) then
    exponent.map fun e => ofDecimal (digitsValue (whole ++ fraction)) (e - fraction.length)
  else none

/-- A number without a sign, or one of the words for numbers that are not finite. -/
def readUnsigned (text : List Char) : Option Binary64 :=
  match String.ofList (text.map Char.toLower) with
  | "nan" => some nan
  | "inf" | "infinity" => some infinity
  | _ => readDigits text

/-- The number that a text stands for, with an optional sign. -/
def read (text : String) : Option Binary64 :=
  match text.toList with
  | '-' :: rest => (readUnsigned rest).map neg
  | '+' :: rest => readUnsigned rest
  | rest => readUnsigned rest

end Binary64

end Concordance
