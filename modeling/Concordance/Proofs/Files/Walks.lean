import Concordance.Proofs.Files.Links
import Concordance.Proofs.Text.Bytes

/-!
# Walks through folders

What a walk meets can be said without walking: it is told from the names that lead there, entry by entry,
where a link into a folder that was come through on the way is a failure. A walk has a record of all that it
meets, in the order of names, and what it finds can be read off.

## Main definitions

* `FileTree.Meets`: what is met under a list of names
* `FileTree.Records`: the record of a walk

## Main results

* `IsSound.eq_of_meets`: under a list of names one thing is met
* `IsSound.exists_records_walk`: every walk has a record
-/

namespace Concordance

namespace Discovered

/-- What several walks found, one after the other. -/
def gather (found : List Discovered) : Discovered :=
  found.foldr append none

theorem none_append (found : Discovered) : none.append found = found := by
  simp [append, none]

@[simp] theorem gather_nil : gather [] = none := rfl

@[simp] theorem gather_cons (first : Discovered) (found : List Discovered) :
    gather (first :: found) = first.append (gather found) := rfl

theorem gather_append (found more : List Discovered) :
    gather (found ++ more) = (gather found).append (gather more) := by
  induction found with
  | nil => rw [List.nil_append, gather_nil, none_append]
  | cons first found ih => rw [List.cons_append, gather_cons, gather_cons, ih, append_assoc]

theorem gather_flatMap {Item : Type} (items : List Item) (part : Item → List Discovered) :
    gather (items.flatMap part) = gather (items.map fun item => gather (part item)) := by
  induction items with
  | nil => rfl
  | cons item items ih => rw [List.flatMap_cons, gather_append, ih, List.map_cons, gather_cons]

end Discovered

namespace FileTree

/-- What is met under a list of names, from a folder on: under no names that folder itself, and behind it
what is in there, if it can be listed. The walk is `inside` of that folder and of those that it came
through. -/
inductive Meets (tree : FileTree) : List Place → Place → List String → Entry → Prop
  | here (inside : List Place) (folder : Place) : Meets tree inside folder [] (.folder folder)
  | leaf {inside : List Place} {folder : Place} {name : String} {entry : Entry}
      (hlist : tree.isListable folder = true) (hentry : tree.IsEntry inside folder name entry)
      (hleaf : ∀ place, entry ≠ .folder place) : Meets tree inside folder [name] entry
  | further {inside : List Place} {folder place : Place} {name : String} {route : List String}
      {entry : Entry} (hlist : tree.isListable folder = true)
      (hentry : tree.IsEntry inside folder name (.folder place))
      (hroute : Meets tree (place :: inside) place route entry) :
      Meets tree inside folder (name :: route) entry

variable {tree : FileTree} {inside : List Place} {folder place : Place} {name shown : String}
  {route : List String} {entry : Entry}

/-! ## Walking through a folder -/

theorem mem_placesIn_iff :
    place ∈ tree.placesIn folder ↔ place ∈ tree.nodes.keys ∧ ∃ name, place = folder ++ [name] := by
  simp only [placesIn, List.mem_filter, decide_eq_true_eq]
  refine and_congr_right fun _ => ⟨?_, ?_⟩
  · rintro ⟨hne, rfl⟩
    exact ⟨place.getLast hne, (List.dropLast_append_getLast hne).symm⟩
  · rintro ⟨name, rfl⟩
    simp

@[simp] theorem nameOf_append (folder : Place) (name : String) : nameOf (folder ++ [name]) = name := by
  simp [nameOf]

/-- The entries of a folder are gone through in the order of their names. -/
theorem pairwise_placesIn (tree : FileTree) (folder : Place) :
    (tree.placesIn folder).Pairwise fun a b => nameOf a < nameOf b := by
  have hsorted : tree.nodes.keys.Pairwise fun a b : Place => a < b :=
    Std.ExtTreeMap.ordered_keys.imp Text.list_compare_eq_lt_iff.mp
  refine (hsorted.filter _).imp_of_mem fun {a b} ha hb hlt => ?_
  obtain ⟨-, name, rfl⟩ := mem_placesIn_iff.mp ha
  obtain ⟨-, other, rfl⟩ := mem_placesIn_iff.mp hb
  rw [nameOf_append, nameOf_append]
  rcases lt_trichotomy name other with hless | rfl | hgreater
  · exact hless
  · exact absurd hlt (lt_irrefl _)
  · have hreverse : [other] < [name] := List.cons_lt_cons_iff.mpr (.inl hgreater)
    exact absurd hlt (lt_asymm (List.append_left_lt hreverse))

/-- What a walk finds at an entry that is shown by a path. -/
def enter (tree : FileTree) (inside : List Place) (path : String) : Entry → Discovered
  | .folder place => tree.walk (place :: inside) place path
  | .file => .ofFile path
  | .ignored => .none
  | .failure => .failure

theorem enter_kindAt (tree : FileTree) (inside : List Place) (place : Place) (path : String) :
    tree.enter inside path (tree.kindAt place) =
      if tree.isFolder place then tree.walk (place :: inside) place path
      else tree.discoverFile place path := by
  unfold kindAt discoverFile
  split_ifs <;> rfl

/-- A walk through a folder goes from entry to entry. -/
theorem walk_eq_gather (hlist : tree.isListable folder = true) (inside : List Place) (shown : String) :
    tree.walk inside folder shown = .gather ((tree.placesIn folder).map fun place =>
      ((tree.entryAt inside folder (nameOf place)).map
        (tree.enter inside (Path.join shown (nameOf place)))).getD .none) := by
  rw [walk, if_neg (by simp [hlist])]
  refine congrArg Discovered.gather (.trans (List.map_congr_left fun x _ => ?_) List.attach_map_val)
  obtain ⟨place, hmem⟩ := x
  obtain ⟨-, name, rfl⟩ := mem_placesIn_iff.mp hmem
  simp only [nameOf_append, entryAt]
  cases tree.node? (folder ++ [name]) with
  | none => rfl
  | some node =>
    cases node with
    | link text =>
      cases tree.resolveLink folder name with
      | none => rfl
      | some target =>
        by_cases hfolder : tree.isFolder target = true
        · by_cases hinside : target ∈ inside
          · simp [hfolder, hinside, enter]
          · simp [hfolder, hinside, enter_kindAt]
        · simp [hfolder, enter_kindAt]
    | _ => exact (enter_kindAt tree inside _ _).symm

theorem walk_of_not_isListable (hlist : tree.isListable folder = false) (inside : List Place)
    (shown : String) : tree.walk inside folder shown = .failure := by
  rw [walk, if_pos hlist]

/-! ## Everything that is met -/

/-- What a walk finds where it meets an entry. -/
def foundAt (tree : FileTree) (shown : String) : List String × Entry → Discovered
  | (_, .folder place) => if tree.isListable place then .none else .failure
  | (route, .file) => .ofFile (route.foldl Path.join shown)
  | (_, .ignored) => .none
  | (_, .failure) => .failure

/-- What is met behind a name, as it is met from the folder that the name is in. -/
def under (name : String) (x : List String × Entry) : List String × Entry :=
  (name :: x.1, x.2)

theorem foundAt_under (shown name : String) (x : List String × Entry) :
    tree.foundAt shown (under name x) = tree.foundAt (Path.join shown name) x := by
  obtain ⟨route, entry⟩ := x
  cases entry <;> rfl

/-- The record of a walk: the entries that it meets, of those in question, in the order in which it meets
them. What it finds can be read off. -/
structure Records (tree : FileTree) (inside : List Place) (folder : Place) (shown : String)
    (p : List String → Prop) (result : Discovered) (entries : List (List String × Entry)) : Prop where
  sorted : entries.Pairwise fun x y => x.1 < y.1
  mem_iff : ∀ route entry, (route, entry) ∈ entries ↔ tree.Meets inside folder route entry ∧ p route
  result_eq : result = .gather (entries.map (tree.foundAt shown))

@[simp] theorem meets_nil_iff : tree.Meets inside folder [] entry ↔ entry = .folder folder := by
  constructor
  · intro h
    cases h
    rfl
  · rintro rfl
    exact .here inside folder

/-- Nothing but the folder itself is met if it cannot be listed. -/
theorem meets_iff_of_not_isListable (hlist : tree.isListable folder = false) :
    tree.Meets inside folder route entry ↔ route = [] ∧ entry = .folder folder := by
  constructor
  · intro h
    cases h with
    | here => exact ⟨rfl, rfl⟩
    | leaf hlisted | further hlisted => exact absurd (hlist.symm.trans hlisted) Bool.false_ne_true
  · rintro ⟨rfl, rfl⟩
    exact .here inside folder

theorem Meets.exists_isEntry {rest : List String} (h : tree.Meets inside folder (name :: rest) entry) :
    tree.isListable folder = true ∧ ∃ first, tree.IsEntry inside folder name first := by
  cases h with
  | leaf hlist hentry => exact ⟨hlist, _, hentry⟩
  | further hlist hentry => exact ⟨hlist, _, hentry⟩

/-- Behind a name that leads into a folder is what is met from there. -/
theorem IsSound.meets_folder_iff (htree : tree.IsSound) (hlist : tree.isListable folder = true)
    (hentry : tree.IsEntry inside folder name (.folder place)) {rest : List String} :
    tree.Meets inside folder (name :: rest) entry ↔ tree.Meets (place :: inside) place rest entry := by
  constructor
  · intro h
    cases h with
    | leaf _ hother hleaf => exact absurd (htree.eq_of_isEntry hother hentry) (hleaf place)
    | further _ hother hroute =>
      cases htree.eq_of_isEntry hother hentry
      exact hroute
  · exact .further hlist hentry

/-- Behind any other name is nothing. -/
theorem IsSound.meets_leaf_iff (htree : tree.IsSound) (hlist : tree.isListable folder = true)
    (hentry : tree.IsEntry inside folder name entry) (hleaf : ∀ place, entry ≠ .folder place)
    {rest : List String} {last : Entry} :
    tree.Meets inside folder (name :: rest) last ↔ rest = [] ∧ last = entry := by
  constructor
  · intro h
    cases h with
    | leaf _ hother => exact ⟨rfl, htree.eq_of_isEntry hother hentry⟩
    | further _ hother => exact absurd (htree.eq_of_isEntry hentry hother) (hleaf _)
  · rintro ⟨rfl, rfl⟩
    exact .leaf hlist hentry hleaf

/-- Whatever is in a folder that can be listed is met. -/
theorem IsSound.exists_meets (htree : tree.IsSound) (hlist : tree.isListable folder = true)
    (inside : List Place) (hmem : folder ++ [name] ∈ tree.nodes.keys) :
    ∃ entry, tree.Meets inside folder [name] entry := by
  obtain ⟨entry, hentry⟩ := (htree.exists_isEntry_iff inside).mpr hmem
  by_cases hleaf : ∀ place, entry ≠ .folder place
  · exact ⟨entry, .leaf hlist hentry hleaf⟩
  · obtain ⟨place, rfl⟩ : ∃ place, entry = .folder place := by simpa using hleaf
    exact ⟨_, .further hlist hentry (.here _ place)⟩

/-- One thing is met under a list of names. -/
theorem IsSound.eq_of_meets (htree : tree.IsSound) {other : Entry}
    (h : tree.Meets inside folder route entry) (hother : tree.Meets inside folder route other) :
    entry = other := by
  induction h with
  | here => exact (meets_nil_iff.mp hother).symm
  | leaf hlist hentry hleaf => exact ((htree.meets_leaf_iff hlist hentry hleaf).mp hother).2.symm
  | further hlist hentry _ ih => exact ih ((htree.meets_folder_iff hlist hentry).mp hother)

/-- What is in a folder that a walk goes into is met on the walk. -/
theorem Meets.exists_append (h : tree.Meets inside folder route (.folder place)) :
    ∃ more, ∀ rest entry, tree.Meets more place rest entry →
      tree.Meets inside folder (route ++ rest) entry := by
  generalize hfolder : Entry.folder place = last at h
  induction h with
  | here inside folder =>
    cases hfolder
    exact ⟨inside, fun rest entry hrest => hrest⟩
  | leaf _ _ hleaf => exact absurd hfolder.symm (hleaf place)
  | further hlist hentry _ ih =>
    obtain ⟨more, hmore⟩ := ih hfolder
    exact ⟨more, fun rest entry hrest => .further hlist hentry (hmore rest entry hrest)⟩

/-- Going into an entry is recorded if the walk behind it is. -/
theorem IsSound.exists_records_enter (htree : tree.IsSound) (hlist : tree.isListable folder = true)
    (hentry : tree.IsEntry inside folder name entry)
    (hwalk : ∀ place, entry = .folder place →
      ∃ entries, tree.Records (place :: inside) place (Path.join shown name) (fun _ => True)
        (tree.walk (place :: inside) place (Path.join shown name)) entries) :
    ∃ entries, tree.Records inside folder shown (·.head? = some name)
      (tree.enter inside (Path.join shown name) entry) entries := by
  simp only [List.head?_eq_some_iff]
  by_cases hleaf : ∀ place, entry ≠ .folder place
  · refine ⟨[([name], entry)], List.pairwise_singleton _ _, fun route last => ⟨fun h => ?_, ?_⟩, ?_⟩
    · cases List.mem_singleton.mp h
      exact ⟨.leaf hlist hentry hleaf, [], rfl⟩
    · rintro ⟨hmeets, rest, rfl⟩
      obtain ⟨rfl, rfl⟩ := (htree.meets_leaf_iff hlist hentry hleaf).mp hmeets
      exact List.mem_singleton.mpr rfl
    · cases entry with
      | folder place => exact absurd rfl (hleaf place)
      | _ => simp [enter, foundAt, Discovered.append_none]
  · -- what is met behind a folder is what its own walk meets
    obtain ⟨place, rfl⟩ : ∃ place, entry = .folder place := by simpa using hleaf
    obtain ⟨behind, hbehind⟩ := hwalk place rfl
    refine ⟨behind.map (under name), ?_, fun route last => ⟨fun h => ?_, ?_⟩, ?_⟩
    · exact List.pairwise_map.mpr
        (hbehind.sorted.imp fun hlt => List.cons_lt_cons_iff.mpr (.inr ⟨rfl, hlt⟩))
    · obtain ⟨⟨rest, last⟩, hrest, heq⟩ := List.mem_map.mp h
      cases heq
      exact ⟨(htree.meets_folder_iff hlist hentry).mpr ((hbehind.mem_iff _ _).mp hrest).1, rest, rfl⟩
    · rintro ⟨hmeets, rest, rfl⟩
      have hrest := (htree.meets_folder_iff hlist hentry).mp hmeets
      exact List.mem_map.mpr ⟨(rest, last), (hbehind.mem_iff _ _).mpr ⟨hrest, trivial⟩, rfl⟩
    · simp only [List.map_map, Function.comp_def, foundAt_under]
      exact hbehind.result_eq

/-- **Every walk has a record.** By induction on the walk: the record of a folder is the folder itself, and
then those of its entries, one after the other. -/
theorem IsSound.exists_records_walk (htree : tree.IsSound) (inside : List Place) (folder : Place)
    (shown : String) :
    ∃ entries,
      tree.Records inside folder shown (fun _ => True) (tree.walk inside folder shown) entries := by
  induction inside, folder, shown using walk.induct tree with
  | case1 inside folder shown hlist =>
    refine ⟨[([], .folder folder)], List.pairwise_singleton _ _, fun route entry => ?_, ?_⟩
    · simp [meets_iff_of_not_isListable hlist]
    · simp [walk_of_not_isListable hlist, foundAt, hlist, Discovered.append_none]
  | case2 inside folder shown hlist ihLink ihFolder =>
    rw [Bool.not_eq_false] at hlist
    -- each entry of the folder has its part of the record
    have hparts : ∀ place ∈ tree.placesIn folder, ∃ part, tree.Records inside folder shown
        (·.head? = some (nameOf place)) (((tree.entryAt inside folder (nameOf place)).map
          (tree.enter inside (Path.join shown (nameOf place)))).getD .none) part := by
      intro place hplace
      obtain ⟨hmem, name, rfl⟩ := mem_placesIn_iff.mp hplace
      rw [nameOf_append]
      obtain ⟨entry, hentry⟩ := (htree.exists_isEntry_iff inside).mpr hmem
      rw [htree.isEntry_iff.mp hentry]
      refine htree.exists_records_enter hlist hentry fun target htarget => ?_
      subst htarget
      cases hentry with
      | folder hfolder => simpa using ihFolder (folder ++ [name]) hplace
      | linkedFolder hlink hfolder hnew => simpa using ihLink (folder ++ [name]) target hfolder hnew
    choose! part hpart using hparts
    -- together these have everything but the folder itself
    have hmeets : ∀ route entry, (route, entry) ∈ (tree.placesIn folder).flatMap part ↔
        tree.Meets inside folder route entry ∧ route ≠ [] := by
      intro route entry
      rw [List.mem_flatMap]
      constructor
      · rintro ⟨place, hplace, hmem⟩
        obtain ⟨hmeets, hhead⟩ := ((hpart place hplace).mem_iff _ _).mp hmem
        exact ⟨hmeets, by rintro rfl; cases hhead⟩
      · rintro ⟨hmeets, hne⟩
        obtain ⟨name, rest, rfl⟩ := List.exists_cons_of_ne_nil hne
        obtain ⟨-, first, hentry⟩ := hmeets.exists_isEntry
        have hplace : folder ++ [name] ∈ tree.placesIn folder :=
          mem_placesIn_iff.mpr ⟨(htree.exists_isEntry_iff inside).mp ⟨first, hentry⟩, name, rfl⟩
        exact ⟨_, hplace, ((hpart _ hplace).mem_iff _ _).mpr ⟨hmeets, by simp⟩⟩
    refine ⟨([], .folder folder) :: (tree.placesIn folder).flatMap part, ?_, fun route entry => ?_, ?_⟩
    · refine List.pairwise_cons.mpr ⟨fun x hx => ?_, List.pairwise_flatMap.mpr
        ⟨fun place hplace => (hpart place hplace).sorted, ?_⟩⟩
      · obtain ⟨first, rest, heq⟩ := List.exists_cons_of_ne_nil ((hmeets x.1 x.2).mp hx).2
        rw [heq]
        exact List.nil_lt_cons first rest
      · refine (pairwise_placesIn tree folder).imp_of_mem fun {a b} ha hb hlt x hx y hy => ?_
        obtain ⟨xs, hxs⟩ := List.head?_eq_some_iff.mp (((hpart a ha).mem_iff _ _).mp hx).2
        obtain ⟨ys, hys⟩ := List.head?_eq_some_iff.mp (((hpart b hb).mem_iff _ _).mp hy).2
        rw [hxs, hys]
        exact List.cons_lt_cons_iff.mpr (.inl hlt)
    · rw [List.mem_cons, hmeets, and_true]
      by_cases hnil : route = []
      · simp [hnil]
      · simp [hnil]
    · rw [walk_eq_gather hlist, List.map_cons, Discovered.gather_cons, List.map_flatMap,
        Discovered.gather_flatMap]
      have hself : tree.foundAt shown ([], .folder folder) = .none := if_pos hlist
      rw [hself, Discovered.none_append]
      refine congrArg Discovered.gather (List.map_congr_left fun place hplace => ?_)
      exact (hpart place hplace).result_eq

end FileTree

end Concordance
