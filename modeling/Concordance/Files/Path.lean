/-!
# Paths of files

A path is a text of names with slashes between them.

## Main definitions

* `Path.components`: the names of a path
* `Path.join`: a path with one more name
* `Path.isTextFile`: whether a path has the extension of a text file
-/

namespace Concordance.Path

/-- The pieces of a text between slashes. -/
def pieces (path : List Char) : List (List Char) :=
  path.foldr (fun c found => match found with
    | [] => [[c]]
    | piece :: rest => if c = '/' then [] :: piece :: rest else (c :: piece) :: rest) [[]]

/-- Whether a path ends with a slash. -/
def endsWithSlash (path : List Char) : Bool :=
  path.getLast? = some '/'

/-- The names of a path. A slash at its end asks for a folder, just as a dot after it does. -/
def components (path : String) : List String :=
  let names := ((pieces path.toList).filter (· ≠ [])).map String.ofList
  if endsWithSlash path.toList ∧ names ≠ [] then names ++ ["."] else names

/-- Whether a path starts from the top of a file tree, wherever it is met. -/
def isAbsolute (path : String) : Bool :=
  path.toList.head? = some '/'

/-- A path with one more name. -/
def join (path name : String) : String :=
  if path = "" ∨ endsWithSlash path.toList then path ++ name else path ++ "/" ++ name

/-- The last name of a path, if it is the name of something in a folder. Dots that stand for the
folder itself are looked through. -/
def fileName (path : String) : Option String :=
  let names := (components path).reverse.dropWhile (· == ".")
  match names with
  | name :: _ => if name = ".." then none else some name
  | [] => none

/-- The extension of a name: what comes after its last point, unless that is its first character. -/
def extension (name : String) : Option (List Char) :=
  let letters := name.toList
  let after := (letters.reverse.takeWhile (· != '.')).reverse
  if after.length + 1 < letters.length then some after else none

/-- The extensions of text files. -/
def textExtensions : List String := ["txt", "text"]

/-- Whether a path has the extension of a text file, in any case. -/
def isTextFile (path : String) : Bool :=
  match (fileName path).bind extension with
  | some found => textExtensions.any fun wanted => wanted.toList = found.map Char.toLower
  | none => false

end Concordance.Path
