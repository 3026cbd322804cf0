import Concordance.Markup.Entity
import Concordance.Url.Domain.Name

/-!
# Numeric addresses

The address of a host may be written as numbers: four bytes, where each number may be decimal,
octal or hexadecimal and the last one may stand for several bytes, or eight pieces of 16 bits with
one run of zeros left out.

## Main definitions

* `readFourBytes`, `writeFourBytes`: addresses of four bytes
* `readPieces`, `writePieces`: addresses of eight pieces
-/

namespace Concordance.Address

open Domain (labels)

/-- What a number of an address is, if it is one: its digits in base 8, 10 or 16. -/
def readNumber (text : List Char) : Option Nat :=
  let (base, digits) := match text with
    | '0' :: 'x' :: digits | '0' :: 'X' :: digits => (16, digits)
    | '0' :: d :: digits => (8, d :: digits)
    | digits => (10, digits)
  if text = [] then none
  else if base = 16 then if digits.all Markup.isHexDigit then some (Markup.hexValue digits) else none
  else if base = 10 then if digits.all Char.isDigit then some (digitsValue digits) else none
  else if digits.all (fun c => '0' ≤ c && c ≤ '7') then
    some (digits.foldl (fun value c => value * 8 + (c.toNat - '0'.toNat)) 0)
  else none

/-- The pieces of a host name without the empty one after a last point. -/
def numberPieces (name : List Char) : List (List Char) :=
  let pieces := labels name
  if 1 < pieces.length ∧ pieces.getLast? = some [] then pieces.dropLast else pieces

/-- Whether the last piece of a host name is a number, so that the whole has to be an address. -/
def endsInNumber (name : List Char) : Bool :=
  match (numberPieces name).getLast? with
  | none | some [] => false
  | some last => last.all Char.isDigit || (readNumber last).isSome

/-- An address of four bytes, if the numbers fit into it. -/
def fourBytesOf (numbers : List Nat) : Option Nat :=
  match numbers.reverse with
  | [] => none
  | last :: earlier =>
    if 4 < numbers.length ∨ Nat.pow 256 (5 - numbers.length) ≤ last ∨ earlier.any (255 < ·) then none
    else some (earlier.reverse.foldl (fun value n => value * 256 + n) 0
      * Nat.pow 256 (5 - numbers.length) + last)

/-- The address of four bytes that a host name is. -/
def readFourBytes (name : List Char) : Option Nat := do
  fourBytesOf (← (numberPieces name).mapM readNumber)

/-- An address of four bytes in decimal numbers. -/
def writeFourBytes (address : Nat) : List Char :=
  ['.'].intercalate ([address >>> 24 % 256, address >>> 16 % 256, address >>> 8 % 256,
    address % 256].map (Nat.toDigits 10))

/-- The four bytes at the end of an address of pieces: decimal numbers without leading zeros. -/
def readTail (text : List Char) : Option (List Nat) := do
  let numbers ← (labels text).mapM fun digits =>
    if digits ≠ [] ∧ digits.all Char.isDigit ∧ (digits.length = 1 ∨ digits.head? ≠ some '0')
      ∧ digitsValue digits ≤ 255 then some (digitsValue digits) else none
  match numbers with
  | [a, b, c, d] => some [a * 256 + b, c * 256 + d]
  | _ => none

/-- The pieces of a text between colons. -/
def colonPieces (text : List Char) : List (List Char) :=
  text.foldr (fun c pieces => match pieces with
    | [] => [[c]]
    | piece :: rest => if c = ':' then [] :: piece :: rest else (c :: piece) :: rest) [[]]

/-- Pieces of hexadecimal digits, the last of them perhaps an address of four bytes. -/
def readHexPieces : List (List Char) → Option (List Nat)
  | [] => some []
  | [last] =>
    if '.' ∈ last then readTail last
    else if last ≠ [] ∧ last.length ≤ 4 ∧ last.all Markup.isHexDigit then some [Markup.hexValue last]
    else none
  | piece :: rest =>
    if piece ≠ [] ∧ piece.length ≤ 4 ∧ piece.all Markup.isHexDigit then
      (readHexPieces rest).map (Markup.hexValue piece :: ·)
    else none

/-- A text before and after its first double colon. -/
def splitDoubleColon : List Char → Option (List Char × List Char)
  | ':' :: ':' :: rest => some ([], rest)
  | c :: rest => (splitDoubleColon rest).map fun (before, after) => (c :: before, after)
  | [] => none

/-- The pieces of a text that may be empty. -/
def readSide (text : List Char) : Option (List Nat) :=
  if text = [] then some [] else readHexPieces (colonPieces text)

/-- The eight pieces of an address. A double colon stands for as many zeros as are missing, one at
least; four bytes may only come last. -/
def readPieces (text : List Char) : Option (List Nat) :=
  match splitDoubleColon text with
  | none => do
    let pieces ← readHexPieces (colonPieces text)
    if pieces.length = 8 then some pieces else none
  | some (before, after) => do
    if '.' ∈ before then none
    let left ← readSide before
    let right ← readSide after
    if left.length + right.length < 8 then
      some (left ++ List.replicate (8 - left.length - right.length) 0 ++ right)
    else none

/-- The lengths of the runs of zeros that start at each piece. -/
def zeroRuns : List Nat → List Nat
  | [] => []
  | piece :: rest =>
    let runs := zeroRuns rest
    (if piece = 0 then runs.headD 0 + 1 else 0) :: runs

/-- Where the first of the longest runs of zeros starts, and its length, if that is two or more. -/
def longestZeros (pieces : List Nat) : Option (Nat × Nat) :=
  let runs := zeroRuns pieces
  let longest := runs.foldl max 0
  if 2 ≤ longest then (runs.findIdx? (· == longest)).map (·, longest) else none

/-- Pieces in hexadecimal digits, with colons between them. -/
def writeSide (pieces : List Nat) : List Char :=
  [':'].intercalate (pieces.map (Nat.toDigits 16))

/-- An address of eight pieces; the first of its longest runs of zeros is left out. -/
def writePieces (pieces : List Nat) : List Char :=
  match longestZeros pieces with
  | none => writeSide pieces
  | some (start, length) =>
    writeSide (pieces.take start) ++ [':', ':'] ++ writeSide (pieces.drop (start + length))

end Concordance.Address
