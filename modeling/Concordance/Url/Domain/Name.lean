import Concordance.Text.Case.Lowercase
import Concordance.Text.Normal.Composition
import Concordance.Url.Domain.Label
import Concordance.Url.Domain.Multiple
import Concordance.Url.Domain.Punycode
import Concordance.Url.Domain.Single
import Concordance.Url.Domain.Validity

/-!
# Domain names in ASCII

A domain name may be written in any script. It is brought to lowercase and to the simplest form of
its characters, and each label with characters outside ASCII is then written in ASCII. A label may
also be given in that form.

## Main definitions

* `simplify`: a text with every character in its simplest form
* `toAscii`: a domain name in ASCII
-/

namespace Concordance.Domain

/-- The simplest form of a character, if it may stand in a domain name. -/
def simplifyChar (c : Char) : Option (List Char) :=
  if isDisallowed c then none
  else if isIgnored c then some []
  else match findWrittenOut writtenOut c.toNat with
    | some parts => some (parts.map Char.ofNat)
    | none => match findSimple simpleForms c.toNat with
      | some form => some [Char.ofNat form]
      | none => some (Text.lowerChar c)

/-- A text with every character in its simplest form, and composed. -/
def simplify (text : List Char) : Option (List Char) :=
  (text.mapM simplifyChar).map fun forms => Text.composedForm forms.flatten

/-- The pieces of a text between points. -/
def labels (text : List Char) : List (List Char) :=
  text.foldr (fun c pieces => match pieces with
    | [] => [[c]]
    | piece :: rest => if c = '.' then [] :: piece :: rest else (c :: piece) :: rest) [[]]

/-- A character of ASCII. -/
def isAscii (c : Char) : Bool :=
  c.toNat < 128

/-- What a label starts with that is written in ASCII for another one. -/
def asciiMark : List Char := "xn--".toList

/-- The most characters of a label that needs another form in ASCII. -/
def longestLabel : Nat := 1000

/-- A label without its form in ASCII, if it is given in that form. The label that it stands for
has to need that form and to be as simple as can be. -/
def expandLabel (label : List Char) : Option (List Char) :=
  if asciiMark.isPrefixOf label then
    match Punycode.decode (label.drop 4) with
    | some expanded =>
      if expanded.all isAscii || simplify expanded != some expanded then none else some expanded
    | none => none
  else some label

/-- A label in ASCII. -/
def encodeLabel (label : List Char) : List Char :=
  if label.all isAscii then label else asciiMark ++ Punycode.encode label

/-- Characters of ASCII that may not stand in a domain name. -/
def isForbidden (c : Char) : Bool :=
  c.toNat ≤ 32 || c.toNat == 127 || c ∈ ['%', '#', '/', ':', '<', '>', '?', '@', '[', '\\', ']', '^', '|']

/-- Whether a label can stand in a domain name. -/
def isSound (label : List Char) : Bool :=
  !startsWithMark label && joinersFit label && !label.any isForbidden
    && !label.contains '.' && (label.all isAscii || label.length ≤ longestLabel)

/-- A domain name in ASCII, if it is one. -/
def toAscii (name : List Char) : Option (List Char) := do
  let expanded ← (labels (← simplify name)).mapM expandLabel
  if expanded.all isSound && (!expanded.any (·.any isRightToLeft) || expanded.all directionsFit) then
    some (['.'].intercalate (expanded.map encodeLabel))
  else none

end Concordance.Domain
