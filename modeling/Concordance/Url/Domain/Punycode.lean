/-!
# Punycode

A label with characters outside ASCII is written in ASCII as its ASCII characters, followed by a
list of insertions. An insertion says by how much to advance through all places and characters
from the previous one, as a number in a mixed base of letters and digits.

## Main definitions

* `Punycode.decode`: the label that a text stands for
* `Punycode.encode`: the text that stands for a label
-/

namespace Concordance.Domain.Punycode

/-- Divides until the number is small, counting 36 for each division. -/
def shrink (delta : Nat) : Nat × Nat :=
  if 455 < delta then
    let (count, rest) := shrink (delta / 35)
    (count + 36, rest)
  else (0, delta)
termination_by delta

/-- The bias for the next number, from the last one and the count of characters it gave. -/
def adapt (delta count : Nat) (first : Bool) : Nat :=
  let delta := if first then delta / 700 else delta / 2
  let (steps, rest) := shrink (delta + delta / count)
  steps + 36 * rest / (rest + 38)

/-- From which digit value on a number goes on after its digit at weight `k`. -/
def threshold (k bias : Nat) : Nat :=
  if k ≤ bias then 1 else min (k - bias) 26

theorem threshold_pos (k bias : Nat) : 0 < threshold k bias := by
  unfold threshold
  split <;> omega

/-- The value of a digit. -/
def digitValue (c : Char) : Option Nat :=
  if 'a' ≤ c ∧ c ≤ 'z' then some (c.toNat - 'a'.toNat)
  else if 'A' ≤ c ∧ c ≤ 'Z' then some (c.toNat - 'A'.toNat)
  else if c.isDigit then some (c.toNat - '0'.toNat + 26)
  else none

/-- The digit with a value. -/
def digitOf (value : Nat) : Char :=
  if value < 26 then Char.ofNat ('a'.toNat + value) else Char.ofNat ('0'.toNat + (value - 26))

/-- What has been decoded so far: the label, the place and the character of the next insertion, and
the digits of the number being read. -/
structure Decoder where
  label : List Char
  character : Nat
  place : Nat
  start : Nat
  weight : Nat
  k : Nat
  bias : Nat

/-- The decoder after the ASCII characters of a label. -/
def Decoder.initial (basic : List Char) : Decoder :=
  ⟨basic, 128, 0, 0, 1, 36, 72⟩

/-- The decoder after one more insertion, at the place that it has come to. -/
def Decoder.insert (d : Decoder) : Option Decoder :=
  let count := d.label.length + 1
  let character := d.character + d.place / count
  let place := d.place % count
  if character.isValidChar then
    some ⟨d.label.take place ++ Char.ofNat character :: d.label.drop place, character, place + 1,
      place + 1, 1, 36, adapt (d.place - d.start) count (d.start == 0)⟩
  else none

/-- The decoder after one more digit. -/
def Decoder.step (d : Decoder) (digit : Nat) : Option Decoder :=
  let place := d.place + digit * d.weight
  if UInt32.size ≤ place then none
  else
    let t := threshold d.k d.bias
    -- A digit below the threshold is the last one of its number.
    if digit < t then { d with place }.insert
    else some { d with place, weight := d.weight * (36 - t), k := d.k + 36 }

/-- Decodes the digits of the insertions. The last number has to be complete. -/
def Decoder.run (d : Decoder) : List Char → Option (List Char)
  | [] => if d.k = 36 then some d.label else none
  | c :: rest => do
    let next ← d.step (← digitValue c)
    next.run rest

/-- The label that a text stands for: what is before its last hyphen, with the insertions after
it. A hyphen at the start has nothing before it, and is no digit either. -/
def decode (text : List Char) : Option (List Char) :=
  let tail := (text.reverse.takeWhile (· != '-')).reverse
  let basic := text.take (text.length - tail.length - 1)
  if text.any fun c => 128 ≤ c.toNat then none
  else if basic = [] then (Decoder.initial []).run text
  else (Decoder.initial basic).run tail

/-- A number in digits. -/
def digitsOf (bias k number : Nat) : List Char :=
  let t := threshold k bias
  if number < t then [digitOf number]
  else digitOf (t + (number - t) % (36 - t)) :: digitsOf bias (k + 36) ((number - t) / (36 - t))
termination_by number
decreasing_by
  have := threshold_pos k bias
  have := Nat.div_le_self (number - threshold k bias) (36 - threshold k bias)
  omega

/-- What has been encoded so far: how far the next insertion has to advance, the bias, and how many
characters are written. -/
structure Encoder where
  delta : Nat
  bias : Nat
  written : Nat
  basic : Nat

/-- Writes the insertions of one character, in a pass through the label. -/
def Encoder.pass (character : Nat) (e : Encoder) : List Char → List Char × Encoder
  | [] => ([], e)
  | c :: rest =>
    if c.toNat < character then { e with delta := e.delta + 1 }.pass character rest
    else if c.toNat = character then
      let bias := adapt e.delta (e.written + 1) (e.written == e.basic)
      let (more, last) := { e with delta := 0, bias, written := e.written + 1 }.pass character rest
      (digitsOf e.bias 36 e.delta ++ more, last)
    else e.pass character rest

/-- Writes the insertions of characters given in ascending order; `next` is the least that could
come. -/
def Encoder.run (label : List Char) (next : Nat) (e : Encoder) : List Nat → List Char
  | [] => []
  | character :: rest =>
    let e := { e with delta := e.delta + (character - next) * (e.written + 1) }
    let (text, last) := e.pass character label
    text ++ { last with delta := last.delta + 1 }.run label (character + 1) rest

/-- The text that stands for a label. -/
def encode (label : List Char) : List Char :=
  let basic := label.filter fun c => c.toNat < 128
  let others := ((label.filter fun c => 128 ≤ c.toNat).map Char.toNat).mergeSort.eraseDups
  let start := if basic = [] then [] else basic ++ ['-']
  start ++ (Encoder.run label 128 ⟨0, 72, basic.length, basic.length⟩ others)

end Concordance.Domain.Punycode
