import Concordance.Files.Tree

/-!
# Finding the files to index

A folder is walked in the order of names, each folder before what comes after it. Links are
followed, and what is neither a folder nor a file is passed over. A link to a folder that the walk
is inside of would never end, so it counts as a failure. So does a link that leads nowhere, and a
folder that cannot be listed. None of these keeps its neighbours from being found.

## Main definitions

* `Discovered`: what a walk found
* `FileTree.walk`: the walk through a folder
* `FileTree.discover`: the files to index under a path
-/

namespace Concordance

/-- The files that a walk found, in order, and how many entries it failed at. -/
structure Discovered where
  files : List String
  failed : Nat
deriving DecidableEq, Repr, Inhabited

namespace Discovered

/-- What was found by nothing. -/
def none : Discovered := ⟨[], 0⟩

/-- An entry that the walk failed at. -/
def failure : Discovered := ⟨[], 1⟩

/-- A file, if it is a text file. -/
def ofFile (path : String) : Discovered :=
  if Path.isTextFile path then ⟨[path], 0⟩ else none

/-- What was found by one walk after another. -/
def append (a b : Discovered) : Discovered :=
  ⟨a.files ++ b.files, a.failed + b.failed⟩

theorem append_none (a : Discovered) : a.append none = a := by
  simp [append, none]

theorem append_assoc (a b c : Discovered) : (a.append b).append c = a.append (b.append c) := by
  simp [append, Nat.add_assoc]

end Discovered

namespace FileTree

/-- The places of what is in a folder, in the order of names. -/
def placesIn (tree : FileTree) (folder : Place) : List Place :=
  tree.nodes.keys.filter fun place => place ≠ [] ∧ place.dropLast = folder

/-- The folders of a tree, with the one at the top. -/
def folders (tree : FileTree) : List Place :=
  [] :: tree.nodes.keys.filter tree.isFolder

/-- The length of the longest place of a tree. -/
def height (tree : FileTree) : Nat :=
  (tree.nodes.keys.map List.length).foldl max 0

/-- How many folders a walk is not inside of. -/
def unvisited (tree : FileTree) (inside : List Place) : Nat :=
  (tree.folders.filter fun folder => !inside.contains folder).length

/-- Where a link in a folder leads. -/
def resolveLink (tree : FileTree) (folder : Place) (name : String) : Option Place :=
  match tree.follow mostLinks folder [name] with
  | .ok (.found place) => some place
  | _ => none

/-- What is found at a place that is no folder, shown by a path. -/
def discoverFile (tree : FileTree) (place : Place) (path : String) : Discovered :=
  if tree.isFile place then .ofFile path else .none

/-- The last name of a place. -/
def nameOf (place : Place) : String :=
  place.getLast?.getD ""

/-! ### Why a walk ends

Entering a link leaves fewer folders that the walk is not inside of. Entering a folder that is no
link leaves no more of these, and gets deeper into the tree. -/

theorem length_filter_le_of_imp {p q : Place → Bool} (h : ∀ x, p x = true → q x = true)
    (l : List Place) : (l.filter p).length ≤ (l.filter q).length := by
  induction l with
  | nil => simp
  | cons x l ih =>
    by_cases hp : p x = true
    · simp [hp, h x hp, ih]
    · by_cases hq : q x = true
      · simp only [List.filter_cons, hp, hq, if_true, List.length_cons]
        exact Nat.le_succ_of_le ih
      · simp [hp, hq, ih]

theorem length_filter_lt_of_imp {p q : Place → Bool} (h : ∀ x, p x = true → q x = true) {a : Place}
    (hq : q a = true) (hp : p a = false) {l : List Place} (ha : a ∈ l) :
    (l.filter p).length < (l.filter q).length := by
  induction l with
  | nil => simp at ha
  | cons x l ih =>
    have le := length_filter_le_of_imp h l
    rcases List.mem_cons.1 ha with rfl | ha
    · simp [hp, hq]
      omega
    · have lt := ih ha
      by_cases hpx : p x = true
      · simp [hpx, h x hpx, lt]
      · by_cases hqx : q x = true
        · simp only [List.filter_cons, hpx, hqx, if_true, List.length_cons]
          simp
          omega
        · simp [hpx, hqx, lt]

theorem unvisited_cons_le (tree : FileTree) (place : Place) (inside : List Place) :
    tree.unvisited (place :: inside) ≤ tree.unvisited inside := by
  apply length_filter_le_of_imp
  intro x hx
  simp at hx ⊢
  exact hx.2

theorem unvisited_cons_lt {tree : FileTree} {place : Place} {inside : List Place}
    (hfolder : tree.isFolder place = true) (hnew : place ∉ inside) :
    tree.unvisited (place :: inside) < tree.unvisited inside := by
  have hmem : place ∈ tree.folders := by
    by_cases hnil : place = []
    · simp [folders, hnil]
    · have hkey : place ∈ tree.nodes := by
        obtain ⟨node, hnode⟩ := exists_node?_of_isFolder hfolder
        rw [node?, if_neg hnil] at hnode
        exact Std.ExtTreeMap.mem_iff_isSome_getElem?.2 (by simp [hnode])
      simp [folders, hfolder, hkey]
  refine length_filter_lt_of_imp ?_ (a := place) ?_ ?_ hmem
  · intro x hx
    simp at hx ⊢
    exact hx.2
  · simp [hnew]
  · simp

theorem length_le_height {tree : FileTree} {place : Place} (h : place ∈ tree.nodes.keys) :
    place.length ≤ tree.height := by
  have bound : ∀ (l : List Nat) (m n : Nat), n ∈ l ∨ n ≤ m → n ≤ l.foldl max m := by
    intro l
    induction l with
    | nil => simp
    | cons x l ih =>
      intro m n h
      apply ih
      rcases h with h | h
      · rcases List.mem_cons.1 h with rfl | h
        · exact .inr (Nat.le_max_right ..)
        · exact .inl h
      · exact .inr (Nat.le_trans h (Nat.le_max_left ..))
  exact bound _ 0 _ (.inl (List.mem_map_of_mem h))

theorem length_of_mem_placesIn {tree : FileTree} {folder place : Place}
    (h : place ∈ tree.placesIn folder) :
    folder.length < place.length ∧ place.length ≤ tree.height := by
  simp only [placesIn, List.mem_filter, decide_eq_true_eq] at h
  obtain ⟨hkey, hnil, hdrop⟩ := h
  refine ⟨?_, length_le_height hkey⟩
  have : place.length ≠ 0 := by simpa using hnil
  rw [← hdrop, List.length_dropLast]
  omega

/-- The walk through a folder, shown by the path `shown`. `inside` are the folders that the walk is
inside of. -/
def walk (tree : FileTree) (inside : List Place) (folder : Place) (shown : String) : Discovered :=
  if tree.isListable folder = false then .failure
  else
    let found := (tree.placesIn folder).attach.map fun ⟨place, _⟩ =>
      let path := Path.join shown (nameOf place)
      match tree.node? place with
      | some (.link _) =>
        match tree.resolveLink folder (nameOf place) with
        | none => .failure
        | some target =>
          if _ : tree.isFolder target = true then
            if _ : target ∈ inside then .failure else tree.walk (target :: inside) target path
          else tree.discoverFile target path
      | some _ =>
        if tree.isFolder place then tree.walk (place :: inside) place path
        else tree.discoverFile place path
      | none => .none
    found.foldr .append .none
termination_by (tree.unvisited inside, tree.height - folder.length)
decreasing_by
  · exact Prod.Lex.left _ _ (unvisited_cons_lt (by assumption) (by assumption))
  · have hlen := length_of_mem_placesIn ‹place ∈ tree.placesIn folder›
    rcases Nat.lt_or_eq_of_le (unvisited_cons_le tree place inside) with h | h
    · exact Prod.Lex.left _ _ h
    · rw [h]
      exact Prod.Lex.right _ (by omega)

/-- The files to index under a path: the text files in a folder, or else what is there itself,
whatever its name. Nothing but a missing path is an error. -/
def discover (tree : FileTree) (root : String) : Except FileError Discovered :=
  match tree.find root with
  | .error cause => .error cause
  | .ok place => .ok (if tree.isFolder place then tree.walk [place] place root else ⟨[root], 0⟩)

end FileTree

end Concordance
