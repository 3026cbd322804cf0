import Concordance.Url.Percent
import Concordance.Url.Scheme

/-!
# Paths

A path is read segment by segment. A segment of one dot means nothing, and a segment of two dots
takes the segment before it back. A dot may be percent encoded. In the path of a file, a letter
with a colon at the start is the name of a drive.

## Main definitions

* `PathState`: the segments read so far
* `readSegments`: the segments of a path
* `splitPath`: a path, and the query and fragment after it
-/

namespace Concordance

/-- The segments of a path, and whether a drive was named, in which case there is no host. -/
structure PathState where
  segments : List String
  drive : Bool
deriving DecidableEq, Repr

/-- A segment as it is compared with dots: percent encoded dots are dots. -/
def unescapeDots : List Char → List Char
  | '%' :: '2' :: 'e' :: rest => '.' :: unescapeDots rest
  | '%' :: '2' :: 'E' :: rest => '.' :: unescapeDots rest
  | c :: rest => c :: unescapeDots rest
  | [] => []

/-- A letter followed by a colon or a bar: the name of a drive. -/
def isDrive (segment : List Char) : Bool :=
  match segment with
  | [letter, mark] => letter.isAlpha && (mark = ':' || mark = '|')
  | _ => false

/-- The segments without the last one, which stays if it looks like a drive. -/
def dropLastSegment (segments : List String) : List String :=
  match segments.getLast? with
  | some last => if isDrive last.toList then segments else segments.dropLast
  | none => []

/-- The state after a segment. `last` says whether the path ends with it: a path that ends in dots
ends with an empty segment. -/
def PathState.push (state : PathState) (kind : SchemeKind) (segment : List Char) (last : Bool) :
    PathState :=
  let ending := if last then [""] else []
  if unescapeDots segment = ['.', '.'] then
    { state with segments := dropLastSegment state.segments ++ ending }
  else if unescapeDots segment = ['.'] then
    { state with segments := state.segments ++ ending }
  else if kind = .file ∧ state.segments = [] ∧ isDrive segment then
    ⟨[String.ofList (segment.take 1 ++ [':'])], true⟩
  else { state with segments := state.segments ++ [String.ofList segment] }

/-- The state after a list of segments. -/
def PathState.pushAll (state : PathState) (kind : SchemeKind) : List (List Char) → PathState
  | [] => state
  | [segment] => state.push kind segment true
  | segment :: rest => (state.push kind segment false).pushAll kind rest

/-- The pieces of a text between slashes. -/
def slashPieces (kind : SchemeKind) (text : List Char) : List (List Char) :=
  text.foldr (fun c pieces => match pieces with
    | [] => [[c]]
    | piece :: rest => if kind.isSlash c then [] :: piece :: rest else (c :: piece) :: rest) [[]]

/-- The segments of a path that continues the given ones. The empty segments at the start of the
path of a file are left out. -/
def readSegments (kind : SchemeKind) (before : List String) (path : List Char) : PathState :=
  let pieces := (slashPieces kind path).map (Percent.encode Percent.inPath)
  let state := PathState.pushAll ⟨before, false⟩ kind pieces
  if kind = .file then
    let named := state.segments.dropWhile (· == "")
    { state with segments := if named = [] then [""] else named }
  else state

/-- A text up to its query or fragment, and the rest. -/
def splitPath (text : List Char) : List Char × List Char :=
  (text.takeWhile fun c => c != '?' && c != '#', text.dropWhile fun c => c != '?' && c != '#')

end Concordance
