import Concordance.Markup.Block

/-!
# Anchors

The target of an anchor is the quoted value after the first `href` and equals sign in it. Whatever
stands between the name of the anchor and that place is skipped, as long as it does not close the
tag; the `href` may be the end of a longer name. The value ends with its quote and nowhere before.

## Main definitions

* `targetAt`: the target that starts right here
* `anchorTarget`: the target of the anchor that a text starts with
* `targets`: the targets of all anchors of a page
-/

namespace Concordance.Markup

open Text (isWhiteSpace)

/-- A value in quotes at the start of a text: the value, and how long it is with its quotes. -/
def quotedValue (text : List Char) : Option (List Char × Nat) :=
  match text with
  | quote :: rest =>
    if quote = '"' ∨ quote = '\'' then
      let length := lengthWhile (· != quote) rest
      if length < rest.length then some (rest.take length, length + 2) else none
    else none
  | [] => none

/-- White space at the start of a text, as a length. -/
def blankLength (text : List Char) : Nat :=
  lengthWhile isWhiteSpace text

/-- The target that starts with its name right here, and how long the name and the value are. -/
def targetAt (text : List Char) : Option (List Char × Nat) :=
  if nameLength "href".toList text = 0 then none
  else
    let before := blankLength (text.drop 4)
    match text.drop (4 + before) with
    | '=' :: rest =>
      let after := blankLength rest
      (quotedValue (rest.drop after)).map fun (value, length) =>
        (value, 4 + before + 1 + after + length)
    | _ => none

/-- The first target inside a tag, and how many characters there are up to its end. -/
def firstTarget : List Char → Option (List Char × Nat)
  | [] => none
  | c :: rest =>
    match targetAt (c :: rest) with
    | some found => some found
    | none =>
      if c = '>' then none else (firstTarget rest).map fun (value, length) => (value, length + 1)

/-- The target of the anchor that a text starts with, and the length of the anchor up to the end of
its target. -/
def anchorTarget (text : List Char) : Option (List Char × Nat) :=
  match text with
  | '<' :: a :: blank :: rest =>
    if a.toLower = 'a' ∧ isWhiteSpace blank = true then
      (firstTarget rest).map fun (value, length) => (value, length + 3)
    else none
  | _ => none

/-- The length of the anchor that a text starts with, up to the end of its target. -/
def anchorLength (text : List Char) : Nat :=
  match anchorTarget text with
  | some (_, length) => length
  | none => 0

/-- The targets of the anchors of a page, in order; comments have no anchors. -/
def targets (page : List Char) : List (List Char) :=
  (findSpans anchorLength (removeComments page)).filterMap fun anchor =>
    (anchorTarget anchor).map (·.1)

end Concordance.Markup
