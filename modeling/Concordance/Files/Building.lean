import Concordance.Files.Tree

/-!
# Building file trees

A tree is built entry by entry. The folders on the way to an entry are made if they are not there.

## Main definitions

* `FileTree.makeFolders`: makes the folders that a list of names goes through
* `FileTree.addEntry`: adds an entry at a path
* `FileTree.ofEntries`: the tree of a list of entries
-/

namespace Concordance.FileTree

/-- The place that names lead to from a place, and the tree with the folders made that were not
there. -/
def makeFolders (tree : FileTree) (place : Place) : List String → Option (Place × FileTree)
  | [] => some (place, tree)
  | name :: rest =>
    match tree.follow mostLinks place [name] with
    | .ok (.found next) => tree.makeFolders next rest
    | .ok (.missing next) => (tree.put next .folder).makeFolders next rest
    | .error _ => none

/-- Adds an entry at a path. Where a folder is to be made, one that is there stays as it is, and
what is written to an existing link goes where that leads. -/
def addEntry (tree : FileTree) (path : String) (node : Node) : FileTree :=
  match node with
  | .folder =>
    match tree.makeFolders [] (Path.components path) with
    | some (_, tree) => tree
    | none => tree
  | node =>
    let names := (Path.components path).filter (· ≠ ".")
    match tree.makeFolders [] names.dropLast, names.getLast? with
    | some (place, tree), some name =>
      match node, tree.follow mostLinks place [name] with
      | .file content, .ok (.found target) => tree.put target (.file content)
      | .file content, .ok (.missing target) => tree.put target (.file content)
      | node, _ => tree.put (place ++ [name]) node
    | _, _ => tree

/-- The tree of a list of entries, added one after the other. -/
def ofEntries (entries : List (String × Node)) : FileTree :=
  entries.foldl (fun tree entry => tree.addEntry entry.1 entry.2) ∅

end Concordance.FileTree
