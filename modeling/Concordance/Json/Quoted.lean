import Concordance.Json.Value

/-!
# String literals

Between its quotes a literal holds every character as itself, except for the quote, the backslash
and the control characters, which need an escape. A character outside the first plane may be
escaped as a pair of surrogates.

## Main definitions

* `Quoted.encode`: what to write between the quotes for a text
* `Quoted.decode`: what the characters between the quotes stand for
-/

namespace Concordance

namespace Quoted

/-- The escape of a control character without a letter of its own: two hexadecimal digits. -/
def encodeControl (c : Char) : List Char :=
  ['\\', 'u', '0', '0', Nat.digitChar (c.toNat / 16), Nat.digitChar (c.toNat % 16)]

/-- What to write between quotes for one character. -/
def encodeChar (c : Char) : List Char :=
  if c = '"' then ['\\', '"']
  else if c = '\\' then ['\\', '\\']
  else if c = '\x08' then ['\\', 'b']
  else if c = '\t' then ['\\', 't']
  else if c = '\n' then ['\\', 'n']
  else if c = '\x0c' then ['\\', 'f']
  else if c = '\r' then ['\\', 'r']
  else if c.toNat < 32 then encodeControl c
  else [c]

/-- What to write between quotes for a text. -/
def encode (text : List Char) : List Char :=
  text.flatMap encodeChar

/-- A piece of a literal: a character, or a code unit of 16 bits that was escaped. -/
inductive Piece where
  | char (c : Char)
  | unit (value : Nat)
deriving DecidableEq, Repr

/-- The value of a hexadecimal digit. -/
def hexDigit (c : Char) : Option Nat :=
  if c.isDigit then some (c.toNat - '0'.toNat)
  else if 'a' ≤ c ∧ c ≤ 'f' then some (c.toNat - 'a'.toNat + 10)
  else if 'A' ≤ c ∧ c ≤ 'F' then some (c.toNat - 'A'.toNat + 10)
  else none

/-- The character named by a letter after a backslash. -/
def namedEscape (c : Char) : Option Char :=
  match c with
  | '"' | '\\' | '/' => some c
  | 'b' => some '\x08'
  | 'f' => some '\x0c'
  | 'n' => some '\n'
  | 'r' => some '\r'
  | 't' => some '\t'
  | _ => none

/-- The pieces of a literal, if all its escapes are escapes and no control character stands for
itself. -/
def pieces : List Char → Option (List Piece)
  | [] => some []
  | '\\' :: 'u' :: a :: b :: c :: d :: rest => do
    let value := (← hexDigit a) * 4096 + (← hexDigit b) * 256 + (← hexDigit c) * 16 + (← hexDigit d)
    (pieces rest).map (.unit value :: ·)
  | '\\' :: c :: rest => do
    let named ← namedEscape c
    (pieces rest).map (.char named :: ·)
  | c :: rest => if c = '\\' ∨ c.toNat < 32 then none else (pieces rest).map (.char c :: ·)

def isLeading (unit : Nat) : Bool := 0xD800 ≤ unit && unit < 0xDC00
def isTrailing (unit : Nat) : Bool := 0xDC00 ≤ unit && unit < 0xE000

/-- The text that pieces stand for; a leading surrogate needs a trailing one right after it, and
a trailing one needs that place. -/
def assemble : List Piece → Option (List Char)
  | [] => some []
  | .char c :: rest => (assemble rest).map (c :: ·)
  | .unit high :: .unit low :: rest =>
    if isLeading high then
      if isTrailing low then
        (assemble rest).map (Char.ofNat (0x10000 + (high - 0xD800) * 0x400 + (low - 0xDC00)) :: ·)
      else none
    else if isTrailing high then none
    else (assemble (.unit low :: rest)).map (Char.ofNat high :: ·)
  | .unit value :: rest =>
    if isLeading value || isTrailing value then none
    else (assemble rest).map (Char.ofNat value :: ·)

/-- What the characters between quotes stand for, if they are a literal at all. -/
def decode (body : List Char) : Option Quoted :=
  (pieces body).map fun found =>
    match assemble found with
    | some letters => .text (String.ofList letters)
    | none => .unpaired

end Quoted

end Concordance
