import Concordance.Markup.Comment
import Concordance.Text.WhiteSpace

/-!
# Block elements

The text inside some elements is never part of what a page says. Such an element goes as a whole,
from its opening tag to the first closing tag of the same name. Names are compared without regard
to case, where the long s counts as an s.

## Main definitions

* `blockNames`: the elements that go as a whole
* `blockLength`: the length of the element that a text starts with
* `removeBlocks`: a page without comments and block elements
-/

namespace Concordance.Markup

open Text (isWhiteSpace)

/-- A letter without its case; the long s is an s. -/
def foldLetter (c : Char) : Char :=
  if c = 'ſ' then 's' else c.toLower

/-- The length of a lowercase name, if a text starts with it in any case. -/
def nameLength (name text : List Char) : Nat :=
  if name.isPrefixOf ((text.take name.length).map foldLetter) then name.length else 0

/-- The elements whose text is never part of what a page says. -/
def blockNames : List (List Char) :=
  ["head".toList, "style".toList, "script".toList, "noscript".toList, "iframe".toList, "svg".toList]

/-- The length of an opening tag with this name: attributes may follow the name after white
space. -/
def openingLength (name text : List Char) : Nat :=
  match text with
  | '<' :: rest =>
    if nameLength name rest = 0 then 0
    else
      let attributes := rest.drop name.length
      match attributes with
      | [] => 0
      | c :: _ =>
        let length := lengthWhile (· != '>') attributes
        if (c = '>' ∨ isWhiteSpace c = true) ∧ length < attributes.length then
          1 + name.length + length + 1
        else 0
  | _ => 0

/-- The length of a closing tag with this name: white space may follow the name. -/
def closingLength (name text : List Char) : Nat :=
  match text with
  | '<' :: '/' :: rest =>
    if nameLength name rest = 0 then 0
    else
      let blanks := lengthWhile isWhiteSpace (rest.drop name.length)
      if ((rest.drop name.length).drop blanks).head? = some '>' then 2 + name.length + blanks + 1
      else 0
  | _ => 0

/-- The length of the element with this name that a text starts with. -/
def blockLength (name text : List Char) : Nat :=
  match openingLength name text with
  | 0 => 0
  | opening + 1 =>
    match lengthUntil (closingLength name) (text.drop (opening + 1)) with
    | some length => opening + 1 + length
    | none => 0

/-- A page without its elements of one name. -/
def removeBlocksNamed (page name : List Char) : List Char :=
  removeSpans (blockLength name) page

/-- A page without its comments and its block elements, which go name by name. -/
def removeBlocks (page : List Char) : List Char :=
  blockNames.foldl removeBlocksNamed (removeComments page)

end Concordance.Markup
