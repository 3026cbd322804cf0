import Concordance.Files.Discovery

/-!
# Where links lead

A path is followed name by name. A link on the way is replaced with the names in its text, which lead on
from the folder that the link is in, or from the top if the text is an absolute path. So a link leads to
something only if there is a way that ends; a link to itself, links in a circle and a link to nothing have
none. Whether the entry of a folder is to be gone into, is a file, or is a failure, is told from where it
leads.

## Main definitions

* `IsName`: a name that something in a folder can have
* `IsSound`: a tree in which everything has such a name and is in a folder
* `LeadsTo`: where names lead, and through how many links
* `LinksTo`: where a link leads
* `IsEntry`: what the entry of a folder is for a walk
* `IsEnd`: whether a way may end at a place

## Main results

* `IsSound.follow_eq_found_iff`: following names finds where they lead
* `IsSound.resolveLink_eq_some_iff`: following a link finds where it leads
* `IsSound.isEnd_of_linksTo`: a link that leads to something leads to something that is no link
* `IsSound.exists_isEntry_iff`: whatever is in a folder is an entry of some kind
-/

namespace Concordance

/-- What an entry of a folder is for a walk: a folder to go into, a file, something else that is passed
over, or nothing but a failure. -/
inductive Entry where
  | folder (place : Place)
  | file
  | ignored
  | failure
deriving DecidableEq

namespace FileTree

/-- A name that something in a folder can have. -/
structure IsName (name : String) : Prop where
  ne_empty : name ≠ ""
  slash_not_mem : '/' ∉ name.toList
  ne_dot : name ≠ "."
  ne_dots : name ≠ ".."
  size_le : name.utf8ByteSize ≤ longestName

instance : DecidablePred IsName := fun name =>
  decidable_of_iff (name ≠ "" ∧ '/' ∉ name.toList ∧ name ≠ "." ∧ name ≠ ".." ∧
      name.utf8ByteSize ≤ longestName)
    ⟨fun ⟨h₁, h₂, h₃, h₄, h₅⟩ => ⟨h₁, h₂, h₃, h₄, h₅⟩, fun ⟨h₁, h₂, h₃, h₄, h₅⟩ => ⟨h₁, h₂, h₃, h₄, h₅⟩⟩

/-- A tree in which everything has a name, and is in a folder. -/
structure IsSound (tree : FileTree) : Prop where
  isName : ∀ place ∈ tree.nodes.keys, ∀ name ∈ place, IsName name
  isFolder_dropLast : ∀ place ∈ tree.nodes.keys, tree.isFolder place.dropLast = true

instance : DecidablePred IsSound := fun tree =>
  decidable_of_iff ((∀ place ∈ tree.nodes.keys, ∀ name ∈ place, IsName name) ∧
      ∀ place ∈ tree.nodes.keys, tree.isFolder place.dropLast = true)
    ⟨fun ⟨h₁, h₂⟩ => ⟨h₁, h₂⟩, fun ⟨h₁, h₂⟩ => ⟨h₁, h₂⟩⟩

/-- Where names lead from a place, on a way through so many links. The dots are names of folders only. -/
inductive LeadsTo (tree : FileTree) : Nat → Place → List String → Place → Prop
  | done (place : Place) : LeadsTo tree 0 place [] place
  | dot {links : Nat} {place target : Place} {rest : List String} (hfolder : tree.isFolder place = true)
      (hrest : LeadsTo tree links place rest target) : LeadsTo tree links place ("." :: rest) target
  | dots {links : Nat} {place target : Place} {rest : List String} (hfolder : tree.isFolder place = true)
      (hrest : LeadsTo tree links place.dropLast rest target) :
      LeadsTo tree links place (".." :: rest) target
  | enter {links : Nat} {place target : Place} {name : String} {rest : List String} {node : Node}
      (hnode : tree.node? (place ++ [name]) = some node) (hlink : ∀ text, node ≠ .link text)
      (hrest : LeadsTo tree links (place ++ [name]) rest target) :
      LeadsTo tree links place (name :: rest) target
  | link {links : Nat} {place target : Place} {name text : String} {rest : List String}
      (hnode : tree.node? (place ++ [name]) = some (.link text)) (hrelative : Path.isAbsolute text = false)
      (hrest : LeadsTo tree links place (Path.components text ++ rest) target) :
      LeadsTo tree (links + 1) place (name :: rest) target
  | absoluteLink {links : Nat} {place target : Place} {name text : String} {rest : List String}
      (hnode : tree.node? (place ++ [name]) = some (.link text)) (habsolute : Path.isAbsolute text = true)
      (hrest : LeadsTo tree links [] (Path.components text ++ rest) target) :
      LeadsTo tree (links + 1) place (name :: rest) target

/-- Where a link in a folder leads, through no more links than are followed for one path. -/
def LinksTo (tree : FileTree) (folder : Place) (name : String) (target : Place) : Prop :=
  (∃ text, tree.node? (folder ++ [name]) = some (.link text)) ∧
    ∃ links ≤ mostLinks, tree.LeadsTo links folder [name] target

/-- What the entry of a folder under a name is, for a walk that is inside of some folders. A link into one of
these would lead round in a circle; a folder itself is always gone into. -/
inductive IsEntry (tree : FileTree) (inside : List Place) (folder : Place) (name : String) : Entry → Prop
  | folder (hfolder : tree.isFolder (folder ++ [name]) = true) :
      IsEntry tree inside folder name (.folder (folder ++ [name]))
  | file (hfile : tree.isFile (folder ++ [name]) = true) : IsEntry tree inside folder name .file
  | socket (hnode : tree.node? (folder ++ [name]) = some .socket) :
      IsEntry tree inside folder name .ignored
  | linkedFolder {target : Place} (hlink : tree.LinksTo folder name target)
      (hfolder : tree.isFolder target = true) (hnew : target ∉ inside) :
      IsEntry tree inside folder name (.folder target)
  | linkedFile {target : Place} (hlink : tree.LinksTo folder name target)
      (hfile : tree.isFile target = true) : IsEntry tree inside folder name .file
  | linkedSocket {target : Place} (hlink : tree.LinksTo folder name target)
      (hnode : tree.node? target = some .socket) : IsEntry tree inside folder name .ignored
  | loop {target : Place} (hlink : tree.LinksTo folder name target)
      (hfolder : tree.isFolder target = true) (hinside : target ∈ inside) :
      IsEntry tree inside folder name .failure
  | dangling {text : String} (hnode : tree.node? (folder ++ [name]) = some (.link text))
      (hnone : ∀ target, ¬ tree.LinksTo folder name target) : IsEntry tree inside folder name .failure

variable {tree : FileTree} {links : Nat} {place folder target : Place} {name : String}
  {names : List String}

/-! ## Sound trees -/

theorem mem_keys_of_node? {node : Node} (hne : place ≠ []) (hnode : tree.node? place = some node) :
    place ∈ tree.nodes.keys := by
  rw [node?, if_neg hne] at hnode
  rw [Std.ExtTreeMap.mem_keys, Std.ExtTreeMap.mem_iff_isSome_getElem?, hnode]
  rfl

theorem exists_node?_of_mem_keys (hmem : place ∈ tree.nodes.keys) :
    ∃ node, tree.node? place = some node := by
  rw [Std.ExtTreeMap.mem_keys, Std.ExtTreeMap.mem_iff_isSome_getElem?] at hmem
  by_cases hnil : place = []
  · exact ⟨.folder, if_pos hnil⟩
  · rw [node?, if_neg hnil]
    exact Option.isSome_iff_exists.mp hmem

/-- Something that is no link stands at a place, so that a way may end there. -/
def IsEnd (tree : FileTree) (place : Place) : Prop :=
  ∃ node, tree.node? place = some node ∧ ∀ text, node ≠ .link text

theorem isEnd_of_isFolder (hfolder : tree.isFolder place = true) : tree.IsEnd place := by
  rcases isFolder_iff.mp hfolder with hnode | hnode <;> exact ⟨_, hnode, by simp⟩

theorem isEnd_of_isFile (hfile : tree.isFile place = true) : tree.IsEnd place := by
  rcases isFile_iff.mp hfile with ⟨content, hnode⟩ | hnode <;> exact ⟨_, hnode, by simp⟩

/-- What is no link is a folder, a file or a socket. -/
theorem IsEnd.isFolder_or_isFile_or_socket (h : tree.IsEnd place) :
    tree.isFolder place = true ∨ tree.isFile place = true ∨ tree.node? place = some .socket := by
  obtain ⟨node, hnode, hlink⟩ := h
  cases node with
  | link text => exact absurd rfl (hlink text)
  | _ => simp [isFolder, isFile, hnode]

namespace IsSound

variable (htree : tree.IsSound)

include htree

theorem isName_of_node? {node : Node} (hnode : tree.node? (place ++ [name]) = some node) : IsName name :=
  htree.isName _ (mem_keys_of_node? (by simp) hnode) name (by simp)

theorem isFolder_of_node? {node : Node} (hnode : tree.node? (place ++ [name]) = some node) :
    tree.isFolder place = true := by
  have hfolder := htree.isFolder_dropLast _ (mem_keys_of_node? (by simp) hnode)
  rwa [List.dropLast_concat] at hfolder

theorem isFolder_dropLast_of_isFolder (hfolder : tree.isFolder place = true) :
    tree.isFolder place.dropLast = true := by
  by_cases hnil : place = []
  · rw [hnil]
    rfl
  · obtain ⟨node, hnode⟩ := exists_node?_of_isFolder hfolder
    exact htree.isFolder_dropLast place (mem_keys_of_node? hnil hnode)

/-! ## Following names -/

/-- A link is replaced with the names in its text. -/
theorem follow_link {text : String} (hnode : tree.node? (place ++ [name]) = some (.link text)) :
    tree.follow (links + 1) place (name :: names) =
      tree.follow links (if Path.isAbsolute text then [] else place) (Path.components text ++ names) := by
  have hname := htree.isName_of_node? hnode
  rw [follow, if_neg (by simp [htree.isFolder_of_node? hnode]), if_neg hname.ne_dot, if_neg hname.ne_dots,
    if_neg (Nat.not_lt.mpr hname.size_le), hnode]

/-- **Following names finds where they lead**, if that is through no more links than may be followed. -/
theorem follow_eq_found_iff :
    tree.follow links place names = .ok (.found target) ↔
      ∃ n ≤ links, tree.LeadsTo n place names target := by
  constructor
  · intro h
    fun_induction follow tree links place names with
    | case1 links place =>
      cases h
      exact ⟨0, Nat.zero_le links, .done _⟩
    | case3 links place rest hfolder ih =>
      obtain ⟨n, hle, hrest⟩ := ih h
      exact ⟨n, hle, .dot (by simpa using hfolder) hrest⟩
    | case4 links place rest hfolder _ ih =>
      obtain ⟨n, hle, hrest⟩ := ih h
      exact ⟨n, hle, .dots (by simpa using hfolder) hrest⟩
    | case9 place name rest _ _ _ _ text hnode links start ih =>
      obtain ⟨n, hle, hrest⟩ := ih h
      refine ⟨n + 1, Nat.succ_le_succ hle, ?_⟩
      cases htext : Path.isAbsolute text with
      | false => exact .link hnode htext (by simpa [start, htext] using hrest)
      | true => exact .absoluteLink hnode htext (by simpa [start, htext] using hrest)
    | case10 links place name rest _ _ _ _ node hlink hnode ih =>
      obtain ⟨n, hle, hrest⟩ := ih h
      exact ⟨n, hle, .enter hnode hlink hrest⟩
    | _ => cases h
  · rintro ⟨n, hle, hleads⟩
    induction hleads generalizing links with
    | done => rw [follow]
    | dot hfolder _ ih =>
      rw [follow, if_neg (by simp [hfolder]), if_pos rfl]
      exact ih hle
    | dots hfolder _ ih =>
      rw [follow, if_neg (by simp [hfolder]), if_neg (by decide), if_pos rfl]
      exact ih hle
    | @enter n place target name rest node hnode hlink _ ih =>
      have hname := htree.isName_of_node? hnode
      rw [follow, if_neg (by simp [htree.isFolder_of_node? hnode]), if_neg hname.ne_dot,
        if_neg hname.ne_dots, if_neg (Nat.not_lt.mpr hname.size_le), hnode]
      cases node with
      | link text => exact absurd rfl (hlink text)
      | _ => exact ih hle
    | @link n place target name text rest hnode hrelative _ ih =>
      obtain ⟨links, rfl⟩ := Nat.exists_eq_add_one_of_ne_zero (Nat.ne_zero_of_lt hle)
      rw [htree.follow_link hnode, hrelative, if_neg Bool.false_ne_true]
      exact ih (Nat.le_of_succ_le_succ hle)
    | @absoluteLink n place target name text rest hnode habsolute _ ih =>
      obtain ⟨links, rfl⟩ := Nat.exists_eq_add_one_of_ne_zero (Nat.ne_zero_of_lt hle)
      rw [htree.follow_link hnode, habsolute, if_pos rfl]
      exact ih (Nat.le_of_succ_le_succ hle)

/-- Names that lead somewhere from what is no link lead to something that is no link. -/
theorem isEnd_of_leadsTo (h : tree.LeadsTo links place names target) (hplace : tree.IsEnd place) :
    tree.IsEnd target := by
  induction h with
  | done => exact hplace
  | dot _ _ ih => exact ih hplace
  | dots hfolder _ ih => exact ih (isEnd_of_isFolder (htree.isFolder_dropLast_of_isFolder hfolder))
  | enter hnode hlink _ ih => exact ih ⟨_, hnode, hlink⟩
  | link _ _ _ ih => exact ih hplace
  | absoluteLink _ _ _ ih => exact ih (isEnd_of_isFolder rfl)

/-! ## Links -/

theorem resolveLink_eq_some_iff {text : String}
    (hnode : tree.node? (folder ++ [name]) = some (.link text)) :
    tree.resolveLink folder name = some target ↔ tree.LinksTo folder name target := by
  rw [LinksTo, and_iff_right ⟨text, hnode⟩, ← htree.follow_eq_found_iff, resolveLink]
  split
  · rename_i place hfound
    simp [hfound]
  · rename_i hnone
    exact iff_of_false (by simp) (hnone target)

theorem resolveLink_eq_none_iff {text : String}
    (hnode : tree.node? (folder ++ [name]) = some (.link text)) :
    tree.resolveLink folder name = none ↔ ∀ target, ¬ tree.LinksTo folder name target := by
  simp only [Option.eq_none_iff_forall_ne_some, ne_eq, htree.resolveLink_eq_some_iff hnode]

/-- A link that leads to something leads to something that is no link. -/
theorem isEnd_of_linksTo (h : tree.LinksTo folder name target) : tree.IsEnd target := by
  obtain ⟨⟨text, hnode⟩, n, -, hleads⟩ := h
  exact htree.isEnd_of_leadsTo hleads (isEnd_of_isFolder (htree.isFolder_of_node? hnode))

end IsSound

/-! ## Entries -/

/-- What is at a place, for a walk that gets there. -/
def kindAt (tree : FileTree) (place : Place) : Entry :=
  if tree.isFolder place then .folder place else if tree.isFile place then .file else .ignored

/-- What the entry of a folder under a name is; none if nothing is there. -/
def entryAt (tree : FileTree) (inside : List Place) (folder : Place) (name : String) : Option Entry :=
  match tree.node? (folder ++ [name]) with
  | none => none
  | some (.link _) =>
    match tree.resolveLink folder name with
    | none => some .failure
    | some target =>
      some (if tree.isFolder target && inside.contains target then .failure else tree.kindAt target)
  | some _ => some (tree.kindAt (folder ++ [name]))

theorem kindAt_of_isFolder (hfolder : tree.isFolder place = true) : tree.kindAt place = .folder place :=
  if_pos hfolder

theorem isFolder_eq_false_of_isFile (hfile : tree.isFile place = true) : tree.isFolder place = false := by
  rcases isFile_iff.mp hfile with ⟨content, hnode⟩ | hnode <;> simp [isFolder, hnode]

theorem kindAt_of_isFile (hfile : tree.isFile place = true) : tree.kindAt place = .file := by
  rw [kindAt, isFolder_eq_false_of_isFile hfile, if_neg Bool.false_ne_true, if_pos hfile]

theorem kindAt_of_socket (hnode : tree.node? place = some .socket) : tree.kindAt place = .ignored := by
  simp [kindAt, isFolder, isFile, hnode]

theorem entryAt_of_isEnd (hend : tree.IsEnd (folder ++ [name])) :
    tree.entryAt inside folder name = some (tree.kindAt (folder ++ [name])) := by
  obtain ⟨node, hnode, hlink⟩ := hend
  rw [entryAt, hnode]
  cases node with
  | link text => exact absurd rfl (hlink text)
  | _ => rfl

namespace IsSound

variable (htree : tree.IsSound)

include htree

theorem entryAt_of_linksTo {target : Place} (hlink : tree.LinksTo folder name target) :
    tree.entryAt inside folder name =
      some (if tree.isFolder target && inside.contains target then .failure else tree.kindAt target) := by
  obtain ⟨text, hnode⟩ := hlink.1
  simp only [entryAt, hnode, (htree.resolveLink_eq_some_iff hnode).mpr hlink]

theorem entryAt_of_isEntry (h : tree.IsEntry inside folder name entry) :
    tree.entryAt inside folder name = some entry := by
  cases h with
  | folder hfolder => rw [entryAt_of_isEnd (isEnd_of_isFolder hfolder), kindAt_of_isFolder hfolder]
  | file hfile => rw [entryAt_of_isEnd (isEnd_of_isFile hfile), kindAt_of_isFile hfile]
  | socket hnode => rw [entryAt_of_isEnd ⟨_, hnode, by simp⟩, kindAt_of_socket hnode]
  | linkedFolder hlink hfolder hnew =>
    rw [htree.entryAt_of_linksTo hlink, if_neg (by simp [hnew]), kindAt_of_isFolder hfolder]
  | linkedFile hlink hfile =>
    rw [htree.entryAt_of_linksTo hlink, if_neg (by simp [isFolder_eq_false_of_isFile hfile]),
      kindAt_of_isFile hfile]
  | linkedSocket hlink hnode =>
    rw [htree.entryAt_of_linksTo hlink, if_neg (by simp [isFolder, hnode]), kindAt_of_socket hnode]
  | loop hlink hfolder hinside =>
    rw [htree.entryAt_of_linksTo hlink, if_pos (by simp [hfolder, hinside])]
  | dangling hnode hnone =>
    simp only [entryAt, hnode, (htree.resolveLink_eq_none_iff hnode).mpr hnone]

theorem exists_isEntry (inside : List Place) {node : Node}
    (hnode : tree.node? (folder ++ [name]) = some node) :
    ∃ entry, tree.IsEntry inside folder name entry := by
  cases node with
  | link text =>
    by_cases hlink : ∃ target, tree.LinksTo folder name target
    · obtain ⟨target, hlink⟩ := hlink
      rcases (htree.isEnd_of_linksTo hlink).isFolder_or_isFile_or_socket with hfolder | hfile | hsocket
      · by_cases hinside : target ∈ inside
        · exact ⟨_, .loop hlink hfolder hinside⟩
        · exact ⟨_, .linkedFolder hlink hfolder hinside⟩
      · exact ⟨_, .linkedFile hlink hfile⟩
      · exact ⟨_, .linkedSocket hlink hsocket⟩
    · exact ⟨_, .dangling hnode (not_exists.mp hlink)⟩
  | _ =>
    have hend : tree.IsEnd (folder ++ [name]) := ⟨_, hnode, by simp⟩
    rcases hend.isFolder_or_isFile_or_socket with hfolder | hfile | hsocket
    · exact ⟨_, .folder hfolder⟩
    · exact ⟨_, .file hfile⟩
    · exact ⟨_, .socket hsocket⟩

theorem isEntry_iff :
    tree.IsEntry inside folder name entry ↔ tree.entryAt inside folder name = some entry := by
  refine ⟨htree.entryAt_of_isEntry, fun h => ?_⟩
  cases hnode : tree.node? (folder ++ [name]) with
  | none => simp [entryAt, hnode] at h
  | some node =>
    -- what is there is an entry of some kind, and can be of no other
    obtain ⟨other, hother⟩ := htree.exists_isEntry inside hnode
    rw [htree.entryAt_of_isEntry hother, Option.some.injEq] at h
    exact h ▸ hother

/-- An entry is of one kind. -/
theorem eq_of_isEntry {other : Entry} (h : tree.IsEntry inside folder name entry)
    (hother : tree.IsEntry inside folder name other) : entry = other := by
  rw [htree.isEntry_iff] at h hother
  exact Option.some.inj (h.symm.trans hother)

/-- Whatever is in a folder is an entry of some kind. -/
theorem exists_isEntry_iff (inside : List Place) :
    (∃ entry, tree.IsEntry inside folder name entry) ↔ folder ++ [name] ∈ tree.nodes.keys := by
  constructor
  · rintro ⟨entry, hentry⟩
    have hsome := htree.entryAt_of_isEntry hentry
    cases hnode : tree.node? (folder ++ [name]) with
    | none => simp [entryAt, hnode] at hsome
    | some node => exact mem_keys_of_node? (by simp) hnode
  · intro hmem
    obtain ⟨node, hnode⟩ := exists_node?_of_mem_keys hmem
    exact htree.exists_isEntry inside hnode

end IsSound

end FileTree

end Concordance
