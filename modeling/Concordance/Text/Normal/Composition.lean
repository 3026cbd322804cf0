import Concordance.Text.Normal.Form

/-!
# Composed form

Each base character is joined with the marks that follow it as far as there is a character for the
combination. Two characters are joined if together they are the full decomposition of one that is
not excluded from composition.

## Main definitions

* `composePair`: the character that two characters make
* `composedForm`: the composed form of a text
-/

namespace Concordance.Text

/-- Characters with several characters in their decomposition that are never composed. -/
def neverComposed : List Nat := [
  0x344, 0x958, 0x959, 0x95A, 0x95B, 0x95C, 0x95D, 0x95E, 0x95F, 0x9DC, 0x9DD, 0x9DF, 0xA33, 0xA36,
  0xA59, 0xA5A, 0xA5B, 0xA5E, 0xB5C, 0xB5D, 0xF43, 0xF4D, 0xF52, 0xF57, 0xF5C, 0xF69, 0xF73, 0xF75,
  0xF76, 0xF78, 0xF81, 0xF93, 0xF9D, 0xFA2, 0xFA7, 0xFAC, 0xFB9, 0x1F71, 0x1F73, 0x1F75, 0x1F77,
  0x1F79, 0x1F7B, 0x1F7D, 0x1FBB, 0x1FC9, 0x1FCB, 0x1FD3, 0x1FDB, 0x1FE3, 0x1FEB, 0x1FEE, 0x1FF9,
  0x1FFB, 0x212B, 0x2ADC, 0xFB1D, 0xFB1F, 0xFB2A, 0xFB2B, 0xFB2C, 0xFB2D, 0xFB2E, 0xFB2F, 0xFB30,
  0xFB31, 0xFB32, 0xFB33, 0xFB34, 0xFB35, 0xFB36, 0xFB38, 0xFB39, 0xFB3A, 0xFB3B, 0xFB3C, 0xFB3E,
  0xFB40, 0xFB41, 0xFB43, 0xFB44, 0xFB46, 0xFB47, 0xFB48, 0xFB49, 0xFB4A, 0xFB4B, 0xFB4C, 0xFB4D,
  0xFB4E, 0x1D15E, 0x1D15F, 0x1D160, 0x1D161, 0x1D162, 0x1D163, 0x1D164, 0x1D1BB, 0x1D1BC, 0x1D1BD,
  0x1D1BE, 0x1D1BF, 0x1D1C0]

/-- The syllable of Hangul that a consonant and a vowel make, or a syllable without a trailing
consonant and such a consonant. -/
def composeHangul (a b : Nat) : Option Nat :=
  if 0x1100 ≤ a ∧ a < 0x1113 ∧ 0x1161 ≤ b ∧ b < 0x1176 then
    some (0xAC00 + ((a - 0x1100) * 21 + (b - 0x1161)) * 28)
  else if 0xAC00 ≤ a ∧ a ≤ 0xD7A3 ∧ (a - 0xAC00) % 28 = 0 ∧ 0x11A7 < b ∧ b < 0x11C3 then
    some (a + (b - 0x11A7))
  else none

/-- The listed character with this full decomposition. -/
def composeListed (parts : List Nat) : Option Nat :=
  (decompositions.find? fun entry => entry.2 == parts && !neverComposed.contains entry.1).map (·.1)

/-- The character that two characters make. -/
def composePair (a b : Char) : Option Char :=
  match composeHangul a.toNat b.toNat with
  | some c => some (Char.ofNat c)
  | none => (composeListed ((decompose a ++ [b]).map Char.toNat)).map Char.ofNat

/-- Joins a base character with the marks that follow it. `skipped` are the marks that could not be
joined, last first: a mark behind one of the same or a higher class is blocked. The base is done
with at the next character of class zero that does not join it. -/
def composeFrom (base : Char) (skipped : List Char) : List Char → List Char
  | [] => base :: skipped.reverse
  | c :: rest =>
    let blocked := match skipped with
      | [] => false
      | d :: _ => combiningClass c ≤ combiningClass d
    match if blocked then none else composePair base c with
    | some joined => composeFrom joined skipped rest
    | none =>
      if combiningClass c = 0 then base :: skipped.reverse ++ composeFrom c [] rest
      else composeFrom base (c :: skipped) rest

/-- Joins the characters of a text in canonical form; marks before the first base stay. -/
def composeAll : List Char → List Char
  | [] => []
  | c :: rest => if combiningClass c = 0 then composeFrom c [] rest else c :: composeAll rest

/-- The composed form of a text. -/
def composedForm (text : List Char) : List Char :=
  composeAll (canonicalForm text)

end Concordance.Text
