import Concordance.Text.Normal.CombiningClass
import Concordance.Text.Normal.Decomposition

/-!
# Canonical form

A text in canonical form has every character decomposed, and the marks that follow a base
character sorted by combining class. Marks of one class keep their order, since they may stack.

## Main definitions

* `insertMark`: puts a character in front of a text in canonical form
* `canonicalForm`: the canonical form of a text
-/

namespace Concordance.Text

/-- Puts `c` in front of a text, past the marks with a smaller class than its own. A character of
class zero ends a run of marks, and none moves past it. -/
def insertMark (c : Char) : List Char → List Char
  | [] => [c]
  | d :: rest =>
    if combiningClass d ≠ 0 ∧ combiningClass d < combiningClass c then d :: insertMark c rest
    else c :: d :: rest

theorem perm_insertMark (c : Char) (text : List Char) : (insertMark c text).Perm (c :: text) := by
  induction text with
  | nil => exact .refl _
  | cons d rest ih =>
    unfold insertMark
    split
    · exact (ih.cons d).trans (.swap c d rest)
    · exact .refl _

/-- The canonical form of a text: decomposed, with its marks in order. -/
def canonicalForm (text : List Char) : List Char :=
  (text.flatMap decompose).foldr insertMark []

end Concordance.Text
