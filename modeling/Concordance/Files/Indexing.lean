import Concordance.Files.Discovery
import Concordance.Index.Documents
import Concordance.Index.Lookup
import Concordance.Pool.Schedule

/-!
# Indexing files

Each file becomes an index of its own, with the path as its location, and that is added to the
index being built. Files can be indexed one after the other or as tasks of a crew. A file that
cannot be read is counted and does no harm to the others.

## Main definitions

* `FileTree.indexFile`: the index of one file
* `FileTree.indexPath`: indexes the files under a path, one after the other
* `FileTree.indexPathPooled`: indexes the files under a path as tasks of a crew
-/

namespace Concordance

/-- How many files were found, and how many entries and files failed. -/
structure BuildReport where
  files : Nat
  failed : Nat
deriving DecidableEq, Repr, Inhabited

/-- What the tasks that index files share. -/
structure BuildState where
  index : Index
  failed : Nat
deriving DecidableEq, Inhabited

namespace FileTree

/-- The index of a file. What is no text in UTF-8 has no terms. -/
def indexFile (tree : FileTree) (path : String) : Except FileError Index :=
  match tree.read path with
  | .error cause => .error cause
  | .ok content =>
    match String.fromUTF8? content with
    | some text => .ok (Index.ofText path text)
    | none => .ok .empty

/-- The state after one file. -/
def indexOne (tree : FileTree) (state : BuildState) (path : String) : BuildState :=
  match tree.indexFile path with
  | .ok found => { state with index := state.index.merge found }
  | .error _ => { state with failed := state.failed + 1 }

/-- Indexes the files under a path, one after the other. -/
def indexPath (tree : FileTree) (index : Index) (root : String) :
    Except Failure BuildReport × Index :=
  match tree.discover root with
  | .error cause => (.error (.file cause), index)
  | .ok found =>
    let state := found.files.foldl tree.indexOne ⟨index, found.failed⟩
    (.ok ⟨found.files.length, state.failed⟩, state.index)

/-- The task of indexing a file. -/
def indexTask (tree : FileTree) (path : String) : Job String BuildState Unit :=
  match tree.indexFile path with
  | .ok found => .modify fun state => { state with index := state.index.absorb found }
  | .error _ => .modify fun state => { state with failed := state.failed + 1 }

/-- The job of indexing files as tasks. -/
def indexJob (files : List String) : Job String BuildState (Except Failure BuildReport) :=
  (Job.runAll files).bind fun accepted =>
    if accepted then .look fun state => .ok ⟨files.length, state.failed⟩
    else .finish (.error .poolShutdown)

/-- Indexes the files under a path as tasks of a crew. -/
def indexPathPooled (tree : FileTree) (crew : Crew) (index : Index) (root : String) :
    Except Failure BuildReport × Index :=
  match tree.discover root with
  | .error cause => (.error (.file cause), index)
  | .ok found =>
    let pool := crew.work tree.indexTask (Pool.eventsFor crew.size found.files.length)
      ⟨index, found.failed⟩ (indexJob found.files)
    ((pool.result? 0).getD (.error .poolShutdown), pool.memory.index)

end FileTree

end Concordance
