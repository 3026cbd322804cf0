import Concordance.Failure
import Concordance.Files.Path
import Std.Data.ExtTreeMap

/-!
# File trees

A file tree holds folders, files and links, each under the list of names that leads to it from the
top. Links are followed when a path goes through them. The folder at the top is its own parent. It is
where absolute paths start from, and relative ones as well, since the program runs there.

## Main definitions

* `Node`: what stands at a place of a tree
* `FileTree`: a tree
* `FileTree.follow`, `FileTree.locate`: where a path leads
* `FileTree.read`, `FileTree.write`: reading and writing files
-/

namespace Concordance

/-- What stands at a place of a tree. A folder may be closed: what is in it can be reached by its
name, but cannot be listed. A file may be unreadable: it can be opened, but reading and writing
fail. A socket is no file, and cannot be opened. -/
inductive Node where
  | folder
  | closedFolder
  | file (content : ByteArray)
  | unreadable
  | socket
  | link (target : String)
deriving Inhabited

/-- A place in a tree: the names that lead to it from the top. -/
abbrev Place := List String

/-- A file tree. The folder at the top is not listed. -/
structure FileTree where
  nodes : Std.ExtTreeMap Place Node

/-- Where a path leads: to something, or to a place in a folder where nothing is. -/
inductive Lead where
  | found (place : Place)
  | missing (place : Place)
deriving DecidableEq, Repr

namespace FileTree

instance : EmptyCollection FileTree := ⟨⟨∅⟩⟩
instance : Inhabited FileTree := ⟨∅⟩

/-- What stands at a place. -/
def node? (tree : FileTree) (place : Place) : Option Node :=
  if place = [] then some .folder else tree.nodes[place]?

/-- Whether a folder stands at a place. -/
def isFolder (tree : FileTree) (place : Place) : Bool :=
  match tree.node? place with
  | some .folder | some .closedFolder => true
  | _ => false

theorem isFolder_iff {tree : FileTree} {place : Place} :
    tree.isFolder place = true ↔
      tree.node? place = some .folder ∨ tree.node? place = some .closedFolder := by
  unfold isFolder
  split <;> simp_all

theorem exists_node?_of_isFolder {tree : FileTree} {place : Place}
    (h : tree.isFolder place = true) : ∃ node, tree.node? place = some node :=
  (isFolder_iff.1 h).elim (⟨_, ·⟩) (⟨_, ·⟩)

/-- Whether a folder that can be listed stands at a place. -/
def isListable (tree : FileTree) (place : Place) : Bool :=
  match tree.node? place with
  | some .folder => true
  | _ => false

/-- Whether a file stands at a place, be it readable or not. -/
def isFile (tree : FileTree) (place : Place) : Bool :=
  match tree.node? place with
  | some (.file _) | some .unreadable => true
  | _ => false

theorem isFile_iff {tree : FileTree} {place : Place} :
    tree.isFile place = true ↔
      (∃ content, tree.node? place = some (.file content)) ∨ tree.node? place = some .unreadable := by
  unfold isFile
  split <;> simp_all

/-- A tree with something at a place. -/
def put (tree : FileTree) (place : Place) (node : Node) : FileTree :=
  ⟨tree.nodes.insert place node⟩

/-- The longest name, in bytes. -/
def longestName : Nat := 255

/-- Links that are followed on the way through one path. -/
def mostLinks : Nat := 40

/-- Where a list of names leads from a place, following at most so many links. -/
def follow (tree : FileTree) (links : Nat) (place : Place) : List String → Except FileError Lead
  | [] => .ok (.found place)
  | name :: rest =>
    if tree.isFolder place = false then .error .notDirectory
    else if name = "." then tree.follow links place rest
    else if name = ".." then tree.follow links place.dropLast rest
    else if longestName < name.utf8ByteSize then .error .nameTooLong
    -- Only the last name may be missing, since a file can be made there.
    else match tree.node? (place ++ [name]) with
      | none => if rest = [] then .ok (.missing (place ++ [name])) else .error .notFound
      | some (.link target) =>
        match links with
        | 0 => .error .tooManyLinks
        | links + 1 =>
          let start := if Path.isAbsolute target then [] else place
          tree.follow links start (Path.components target ++ rest)
      | some _ => tree.follow links (place ++ [name]) rest
termination_by names => (links, names.length)

/-- The longest path, in bytes. -/
def longestPath : Nat := 4095

/-- Where a path leads from the top, be it absolute or not. -/
def locate (tree : FileTree) (path : String) : Except FileError Lead :=
  if path.contains '\x00' then .error .nulByte
  else if longestPath < path.utf8ByteSize then .error .nameTooLong
  else if path = "" then .error .notFound
  else tree.follow mostLinks [] (Path.components path)

/-- The place that a path leads to, if something is there. -/
def find (tree : FileTree) (path : String) : Except FileError Place :=
  match tree.locate path with
  | .ok (.found place) => .ok place
  | .ok (.missing _) => .error .notFound
  | .error cause => .error cause

/-- The content of the file that a path leads to. -/
def read (tree : FileTree) (path : String) : Except FileError ByteArray :=
  match tree.find path with
  | .error cause => .error cause
  | .ok place =>
    match tree.node? place with
    | some (.file content) => .ok content
    | some .folder => .error .isDirectory
    | some .closedFolder => .error .permissionDenied
    | some .unreadable => .error .inputOutput
    | some .socket => .error .noDevice
    | _ => .error .notFound

/-- The content of the file that a path leads to, as a text. -/
def readText (tree : FileTree) (path : String) : Except FileError String :=
  match tree.read path with
  | .error cause => .error cause
  | .ok content =>
    match String.fromUTF8? content with
    | some text => .ok text
    | none => .error .notText

/-- A path without the slashes at its end. -/
def dropLastSlashes (path : String) : String :=
  String.ofList (path.toList.reverse.dropWhile (· == '/')).reverse

/-- Why no file can be written at a path that names a folder by its slash or its dots: what the
path goes through has to be there. -/
def folderError (tree : FileTree) (path : String) : FileError :=
  let names := Path.components (dropLastSlashes path)
  let through := if Path.endsWithSlash path.toList then names.dropLast else names
  match tree.follow mostLinks [] through with
  | .ok (.found place) => if tree.isFolder place then .isDirectory else .notDirectory
  | .ok (.missing _) => .notFound
  | .error cause => cause

/-- Whether a path names a folder by its slash or its dots. -/
def namesFolder (path : String) : Bool :=
  Path.endsWithSlash path.toList || (Path.components path).getLast? ∈ [some ".", some ".."]

/-- A tree with a text written to the file that a path leads to. The file is made if it is not
there. -/
def write (tree : FileTree) (path text : String) : Except FileError FileTree :=
  match tree.locate path with
  | .error cause => if namesFolder path then .error (tree.folderError path) else .error cause
  | .ok lead =>
    if namesFolder path then .error (tree.folderError path)
    else match lead with
      | .missing place => .ok (tree.put place (.file text.toUTF8))
      | .found place =>
        match tree.node? place with
        | some (.file _) => .ok (tree.put place (.file text.toUTF8))
        | some .unreadable => .error .inputOutput
        | some .socket => .error .noDevice
        | _ => .error .isDirectory

/-- The files of a tree, by their paths. -/
def files (tree : FileTree) : List (String × ByteArray) :=
  tree.nodes.toList.filterMap fun (place, node) =>
    match node with
    | .file content => some ("/".intercalate place, content)
    | _ => none

/-- The files that a tree has and another one has not, or has with another content. -/
def changesSince (tree earlier : FileTree) : List (String × ByteArray) :=
  tree.files.filter fun file => !earlier.files.contains file

end FileTree

end Concordance
