import Concordance.Text.Mark
import Concordance.Text.Normal.CombiningClass
import Concordance.Url.Domain.Direction
import Concordance.Url.Domain.Joining

/-!
# Labels of domain names

A label may not start with a mark. The invisible joiners may stand only where they change how
letters are shown. In a domain name with text from right to left, each label has to be laid out
the same way whatever stands around it.

## Main definitions

* `joinersFit`: whether the joiners of a label are where they may be
* `directionsFit`: whether a label is laid out the same way everywhere
* `isRightToLeft`: whether a character makes its domain name one with text from right to left
-/

namespace Concordance.Domain

/-- The joiner that keeps letters apart. -/
def nonJoiner : Char := Char.ofNat 0x200C

/-- The joiner that draws letters together. -/
def joiner : Char := Char.ofNat 0x200D

/-- Whether the nearest character that is not looked through has a property. -/
def nearestSatisfies (p : Char → Bool) (text : List Char) : Bool :=
  match text.dropWhile isJoinTransparent with
  | [] => false
  | c :: _ => p c

/-- Whether the character before is one that kills a vowel. -/
def afterVirama (before : List Char) : Bool :=
  match before with
  | [] => false
  | c :: _ => Text.combiningClass c = 9

/-- Whether all joiners are where they may be, given what stands before, nearest first. -/
def joinersFitAfter (before : List Char) : List Char → Bool
  | [] => true
  | c :: rest =>
    (if c = joiner then afterVirama before
      else if c = nonJoiner then
        afterVirama before || nearestSatisfies joinsAfter before && nearestSatisfies joinsBefore rest
      else true)
      && joinersFitAfter (c :: before) rest

/-- Whether the joiners of a label are where they may be. -/
def joinersFit (label : List Char) : Bool :=
  joinersFitAfter [] label

/-- Whether a label starts with a mark. -/
def startsWithMark (label : List Char) : Bool :=
  match label with
  | [] => false
  | c :: _ => Text.isMark c

/-- A character that makes its domain name one with text from right to left. -/
def isRightToLeft (c : Char) : Bool :=
  direction c ∈ [.rightToLeft, .arabicLetter, .arabicNumber]

/-- Classes that may stand in any label of a domain name with text from right to left. -/
def isNeutral (d : Direction) : Bool :=
  d ∈ [.europeanNumber, .europeanSeparator, .commonSeparator, .europeanTerminator, .otherNeutral,
    .boundaryNeutral, .nonspacingMark]

/-- Whether classes make up a label that is laid out from left to right. -/
def leftToRightFits (classes : List Direction) : Bool :=
  let last := (classes.reverse.dropWhile (· == .nonspacingMark)).head?
  classes.all (fun d => d == .leftToRight || isNeutral d) &&
    (last == some .leftToRight || last == some .europeanNumber)

/-- Whether classes make up a label that is laid out from right to left. The two kinds of digits do
not mix. -/
def rightToLeftFits (classes : List Direction) : Bool :=
  let last := (classes.reverse.dropWhile (· == .nonspacingMark)).head?
  classes.all (fun d => d ∈ [.rightToLeft, .arabicLetter, .arabicNumber] || isNeutral d) &&
    last.any (· ∈ [.rightToLeft, .arabicLetter, .europeanNumber, .arabicNumber]) &&
    !(classes.contains .europeanNumber && classes.contains .arabicNumber)

/-- Whether a label is laid out the same way whatever stands around it. -/
def directionsFit (label : List Char) : Bool :=
  let classes := label.map direction
  match classes with
  | [] => true
  | .leftToRight :: _ => leftToRightFits classes
  | .rightToLeft :: _ | .arabicLetter :: _ => rightToLeftFits classes
  | _ => false

end Concordance.Domain
