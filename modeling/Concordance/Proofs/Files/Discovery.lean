import Concordance.Proofs.Files.Reading
import Concordance.Proofs.Files.Walks
import Mathlib.Data.Set.Card

/-!
# What is discovered

Discovery in a folder finds exactly the text files below it, on all ways through folders and links that do
not come through a folder twice by a link, each under its own path and in the order of names. Every link
that it cannot follow counts, and every folder that it cannot list. None keeps its neighbours from being
found.

## Main definitions

* `FileTree.FailsAt`: where a walk fails
* `FileTree.Discovers`: what it is to find exactly what is below a folder

## Main results

* `foldl_join_injective`: the path of an entry tells the names that lead to it
* `discovers_of_find`: discovery in a folder ends, and is exact
-/

namespace Concordance

namespace FileTree

variable {tree : FileTree} {inside : List Place} {folder : Place} {name shown : String}
  {route : List String} {entry : Entry}

/-! ## Paths of entries -/

/-- The characters of a path, without the slash it may end with. -/
def stem (path : String) : List Char :=
  if Path.endsWithSlash path.toList then path.toList.dropLast else path.toList

/-- The characters that names add to a path. -/
def addition (route : List String) : List Char :=
  route.flatMap fun name => '/' :: name.toList

theorem toList_join {path : String} (hpath : path ≠ "") (name : String) :
    (Path.join path name).toList = stem path ++ '/' :: name.toList := by
  rw [Path.join, stem]
  split_ifs with h hslash hslash
  · obtain ⟨front, hfront⟩ : ∃ front, path.toList = front ++ ['/'] :=
      List.getLast?_eq_some_iff.mp (of_decide_eq_true hslash)
    simp [hfront]
  · exact absurd h (by simp [hpath, hslash])
  · exact absurd (.inr hslash) h
  · simp

theorem join_ne_empty {path : String} (hpath : path ≠ "") (name : String) : Path.join path name ≠ "" := by
  intro hempty
  have hletters := toList_join hpath name
  rw [hempty] at hletters
  exact absurd hletters (by simp)

theorem stem_join {path : String} (hpath : path ≠ "") (hname : IsName name) :
    stem (Path.join path name) = (Path.join path name).toList := by
  refine if_neg fun hslash => hname.slash_not_mem ?_
  have hlast : (Path.join path name).toList.getLast? = some '/' := of_decide_eq_true hslash
  have hne : name.toList ≠ [] := fun hnil => hname.ne_empty (String.toList_eq_nil_iff.mp hnil)
  rw [toList_join hpath, List.getLast?_append_of_ne_nil _ (List.cons_ne_nil _ _),
    List.getLast?_cons_of_ne_nil hne] at hlast
  exact List.mem_of_getLast? hlast

/-- The path of an entry is told from the names that lead to it. -/
theorem toList_foldl_join {path : String} (hpath : path ≠ "") (hne : route ≠ [])
    (hnames : ∀ name ∈ route, IsName name) :
    (route.foldl Path.join path).toList = stem path ++ addition route := by
  induction route generalizing path with
  | nil => exact absurd rfl hne
  | cons name route ih =>
    rw [List.forall_mem_cons] at hnames
    rw [List.foldl_cons, addition, List.flatMap_cons, ← addition, ← List.append_assoc,
      ← toList_join hpath]
    by_cases hnil : route = []
    · simp [hnil, addition]
    · rw [ih (join_ne_empty hpath name) hnil hnames.2, stem_join hpath hnames.1]

theorem takeWhile_addition (hname : IsName name) (route : List String) :
    (name.toList ++ addition route).takeWhile (· != '/') = name.toList := by
  have hletters : ∀ c ∈ name.toList, (c != '/') = true := fun c hc =>
    bne_iff_ne.mpr (ne_of_mem_of_not_mem hc hname.slash_not_mem)
  rw [List.takeWhile_append_of_pos hletters]
  cases route <;> simp [addition]

theorem addition_injective {other : List String} (hnames : ∀ name ∈ route, IsName name)
    (hother : ∀ name ∈ other, IsName name) (h : addition route = addition other) : route = other := by
  induction route generalizing other with
  | nil =>
    cases other with
    | nil => rfl
    | cons => cases h
  | cons name route ih =>
    cases other with
    | nil => cases h
    | cons first other =>
      rw [List.forall_mem_cons] at hnames hother
      have htail : name.toList ++ addition route = first.toList ++ addition other := (List.cons.inj h).2
      have hfirst : name.toList = first.toList := by
        rw [← takeWhile_addition hnames.1 route, htail, takeWhile_addition hother.1]
      rw [hfirst, List.append_cancel_left_eq] at htail
      rw [String.toList_inj.mp hfirst, ih hnames.2 hother.2 htail]

theorem foldl_join_injective {path : String} (hpath : path ≠ "") {other : List String}
    (hne : route ≠ []) (hnames : ∀ name ∈ route, IsName name) (hotherNe : other ≠ [])
    (hother : ∀ name ∈ other, IsName name)
    (h : route.foldl Path.join path = other.foldl Path.join path) : route = other := by
  have hletters := congrArg String.toList h
  rw [toList_foldl_join hpath hne hnames, toList_foldl_join hpath hotherNe hother,
    List.append_cancel_left_eq] at hletters
  exact addition_injective hnames hother hletters

theorem IsSound.isName_of_meets (htree : tree.IsSound) (h : tree.Meets inside folder route entry) :
    ∀ name ∈ route, IsName name := by
  have hentryName : ∀ inside folder name entry, tree.IsEntry inside folder name entry → IsName name :=
    fun inside _ name entry hentry =>
      htree.isName _ ((htree.exists_isEntry_iff inside).mp ⟨entry, hentry⟩) name (by simp)
  induction h with
  | here => exact List.forall_mem_nil _
  | leaf _ hentry => exact List.forall_mem_singleton.mpr (hentryName _ _ _ _ hentry)
  | further _ hentry _ ih => exact List.forall_mem_cons.mpr ⟨hentryName _ _ _ _ hentry, ih⟩

/-! ## What a record says -/

/-- The names that lead to the entries of some kind in a record. -/
def routesOf (isOne : List String × Entry → Bool) (entries : List (List String × Entry)) :
    List (List String) :=
  (entries.filter isOne).map Prod.fst

/-- The entries that are text files. -/
def isTextFileAt (shown : String) (x : List String × Entry) : Bool :=
  x.2 = .file ∧ Path.isTextFile (x.1.foldl Path.join shown)

/-- The entries that a walk fails at: links that it cannot follow, and folders that it cannot list. -/
def isFailure (tree : FileTree) : List String × Entry → Bool
  | (_, .folder place) => !tree.isListable place
  | (_, .file) | (_, .ignored) => false
  | (_, .failure) => true

namespace Records

variable {p : List String → Prop} {result : Discovered} {entries : List (List String × Entry)}

theorem result_eq_routesOf (h : tree.Records inside folder shown p result entries) :
    result = ⟨(routesOf (isTextFileAt shown) entries).map fun route => route.foldl Path.join shown,
      (routesOf tree.isFailure entries).length⟩ := by
  rw [h.result_eq]
  clear h
  induction entries with
  | nil => rfl
  | cons x entries ih =>
    obtain ⟨route, entry⟩ := x
    rw [List.map_cons, Discovered.gather_cons, ih]
    cases entry with
    | folder place =>
      cases hlist : tree.isListable place <;>
        simp [foundAt, isTextFileAt, isFailure, routesOf, Discovered.append, Discovered.none,
          Discovered.failure, hlist, Nat.add_comm]
    | file =>
      by_cases htext : Path.isTextFile (route.foldl Path.join shown) = true <;>
        simp [foundAt, isTextFileAt, isFailure, routesOf, Discovered.append, Discovered.ofFile,
          Discovered.none, htext]
    | ignored => simp [foundAt, isTextFileAt, isFailure, routesOf, Discovered.append, Discovered.none]
    | failure =>
      have hfails : tree.isFailure (route, .failure) = true := rfl
      simp [foundAt, isTextFileAt, routesOf, Discovered.append, Discovered.failure, hfails, Nat.add_comm]

variable {isOne : List String × Entry → Bool}

theorem pairwise_routesOf (h : tree.Records inside folder shown p result entries) :
    (routesOf isOne entries).Pairwise (· < ·) :=
  List.pairwise_map.mpr (h.sorted.filter isOne)

theorem mem_routesOf_iff (h : tree.Records inside folder shown (fun _ => True) result entries) :
    route ∈ routesOf isOne entries ↔
      ∃ entry, tree.Meets inside folder route entry ∧ isOne (route, entry) = true := by
  simp [routesOf, List.mem_map, List.mem_filter, h.mem_iff]

theorem encard_routesOf (h : tree.Records inside folder shown p result entries) :
    {route | route ∈ routesOf isOne entries}.encard = (routesOf isOne entries).length := by
  rw [← List.coe_toFinset, Set.encard_coe_eq_coe_finsetCard,
    List.toFinset_card_of_nodup h.pairwise_routesOf.nodup]

end Records

/-! ## Discovery -/

/-- The walk from the folder at `top` fails at what it meets under these names: a link that it cannot follow,
or a folder that it cannot list. -/
def FailsAt (tree : FileTree) (top : Place) (route : List String) : Prop :=
  tree.Meets [top] top route .failure ∨
    ∃ place, tree.Meets [top] top route (.folder place) ∧ tree.isListable place = false

theorem Records.failsAt_iff {top : Place} {result : Discovered} {entries : List (List String × Entry)}
    (h : tree.Records [top] top shown (fun _ => True) result entries) :
    tree.FailsAt top route ↔ route ∈ routesOf tree.isFailure entries := by
  rw [h.mem_routesOf_iff]
  constructor
  · rintro (hmeets | ⟨place, hmeets, hlist⟩)
    · exact ⟨_, hmeets, rfl⟩
    · exact ⟨_, hmeets, by simp [isFailure, hlist]⟩
  · rintro ⟨entry, hmeets, hfails⟩
    cases entry with
    | folder place => exact .inr ⟨place, hmeets, by simpa [isFailure] using hfails⟩
    | file | ignored => cases hfails
    | failure => exact .inl hmeets

/-- What it is to find exactly what is below the folder at `top`, shown by the path `root`. A walk meets a
finite number of things there. The files are the paths of the text files that it meets, each path once, in
the order of the names that lead to them: whatever is in a folder comes together, and is ordered by name.
The failures are as many as the links that it meets and that lead nowhere, or into a folder that it came
through; folders that it cannot list count as well, if it comes to any. And whatever is in a folder that it
goes into and can list is met, as one thing, whatever else is in there. -/
structure Discovers (tree : FileTree) (root : String) (top : Place) (found : Discovered) : Prop where
  finite : {route | ∃ entry, tree.Meets [top] top route entry}.Finite
  files : ∃ routes : List (List String),
    routes.Pairwise (fun r s => r.map Text.bytes < s.map Text.bytes) ∧
    (∀ route, route ∈ routes ↔
      tree.Meets [top] top route .file ∧ Path.isTextFile (route.foldl Path.join root) = true) ∧
    found.files = routes.map fun route => route.foldl Path.join root
  once : found.files.Nodup
  failed_of_listable :
    (∀ route place, tree.Meets [top] top route (.folder place) → tree.isListable place = true) →
      {route | tree.Meets [top] top route .failure}.encard = found.failed
  failed : {route | tree.FailsAt top route}.encard = found.failed
  siblings : ∀ route place name, tree.Meets [top] top route (.folder place) →
    tree.isListable place = true → place ++ [name] ∈ tree.nodes.keys →
      ∃! entry, tree.Meets [top] top (route ++ [name]) entry

/-- Names are ordered by their bytes. -/
theorem map_bytes_lt {other : List String} (h : route < other) :
    route.map Text.bytes < other.map Text.bytes := by
  induction route generalizing other with
  | nil =>
    cases other with
    | nil => cases h
    | cons first other => exact List.nil_lt_cons _ _
  | cons name route ih =>
    cases other with
    | nil => cases h
    | cons first other =>
      rw [List.map_cons, List.map_cons]
      rcases List.cons_lt_cons_iff.mp h with hlt | ⟨rfl, hrest⟩
      · exact List.cons_lt_cons_iff.mpr (.inl (Text.bytes_lt_bytes_iff.mpr hlt))
      · exact List.cons_lt_cons_iff.mpr (.inr ⟨rfl, ih hrest⟩)

theorem ne_empty_of_find {root : String} {top : Place} (hroot : tree.find root = .ok top) :
    root ≠ "" := by
  rintro rfl
  have hnul : "".contains '\x00' = false := by simp
  rw [find, locate, hnul, if_neg Bool.false_ne_true, if_neg (by decide), if_pos rfl] at hroot
  cases hroot

/-- **Discovery in a folder ends, and is exact**, in every sound tree and whatever links it has. -/
theorem discovers_of_find (htree : tree.IsSound) {root : String} {top : Place}
    (hroot : tree.find root = .ok top) (hfolder : tree.isFolder top = true) :
    ∃ found, tree.discover root = .ok found ∧ tree.Discovers root top found := by
  obtain ⟨entries, hentries⟩ := htree.exists_records_walk [top] top root
  refine ⟨tree.walk [top] top root, by simp only [discover, hroot, hfolder, if_true], ?_⟩
  have hfiles : ∀ route, route ∈ routesOf (isTextFileAt root) entries ↔
      tree.Meets [top] top route .file ∧ Path.isTextFile (route.foldl Path.join root) = true := by
    intro route
    simp [hentries.mem_routesOf_iff, isTextFileAt]
  have hfailed : {route | tree.FailsAt top route}.encard = (tree.walk [top] top root).failed := by
    simp only [hentries.failsAt_iff]
    rw [hentries.encard_routesOf, hentries.result_eq_routesOf]
  constructor
  case finite =>
    refine (List.finite_toSet (entries.map Prod.fst)).subset ?_
    rintro route ⟨entry, hmeets⟩
    exact List.mem_map.mpr ⟨(route, entry), (hentries.mem_iff route entry).mpr ⟨hmeets, trivial⟩, rfl⟩
  case files =>
    exact ⟨_, hentries.pairwise_routesOf.imp map_bytes_lt, hfiles, by rw [hentries.result_eq_routesOf]⟩
  case once =>
    have hne : ∀ route, tree.Meets [top] top route .file → route ≠ [] := by
      rintro _ hmeets rfl
      cases meets_nil_iff.mp hmeets
    rw [hentries.result_eq_routesOf]
    refine (List.nodup_map_iff_inj_on hentries.pairwise_routesOf.nodup).mpr fun r hr s hs heq => ?_
    obtain ⟨hmeets, -⟩ := (hfiles r).mp hr
    obtain ⟨hother, -⟩ := (hfiles s).mp hs
    exact foldl_join_injective (ne_empty_of_find hroot) (hne r hmeets)
      (htree.isName_of_meets hmeets) (hne s hother) (htree.isName_of_meets hother) heq
  case failed_of_listable =>
    intro hlist
    have hlinks : ∀ route, tree.FailsAt top route ↔ tree.Meets [top] top route .failure := by
      refine fun route => ⟨fun h => h.resolve_right ?_, .inl⟩
      rintro ⟨place, hmeets, hclosed⟩
      exact Bool.false_ne_true (hclosed.symm.trans (hlist route place hmeets))
    simpa only [hlinks] using hfailed
  case failed => exact hfailed
  case siblings =>
    intro route place name hfolder hlist hmem
    obtain ⟨more, hmore⟩ := hfolder.exists_append
    obtain ⟨entry, hmeets⟩ := htree.exists_meets hlist more hmem
    exact ⟨entry, hmore _ _ hmeets, fun other hother => htree.eq_of_meets hother (hmore _ _ hmeets)⟩

/-- A tree with links: back to the folder that is walked, out of it and in again from there, to the top, to
a file, to nothing, and to itself. One folder cannot be listed, and one text file is a socket. -/
def linkedTree : FileTree :=
  (∅ : FileTree).put ["notes"] .folder
    |>.put ["notes", "a.txt"] (.file ⟨#[]⟩)
    |>.put ["notes", "deep"] .folder
    |>.put ["notes", "deep", "b.txt"] .unreadable
    |>.put ["notes", "deep", "up"] (.link "..")
    |>.put ["notes", "gone.txt"] (.link "nothing")
    |>.put ["notes", "own.txt"] (.link "own.txt")
    |>.put ["notes", "same.txt"] (.link "./a.txt")
    |>.put ["notes", "out"] (.link "../other")
    |>.put ["notes", "shut"] .closedFolder
    |>.put ["notes", "shut", "d.txt"] (.file ⟨#[]⟩)
    |>.put ["notes", "socket.txt"] .socket
    |>.put ["other"] .folder
    |>.put ["other", "c.TXT"] (.file ⟨#[]⟩)
    |>.put ["other", "notes"] (.link "/notes")
    |>.put ["other", "top"] (.link "/")

theorem discovers_of_find_linkedTree :
    linkedTree.IsSound ∧ linkedTree.find "notes" = .ok ["notes"] ∧
      linkedTree.isFolder ["notes"] = true ∧ ∃ found, linkedTree.discover "notes" = .ok found ∧
        linkedTree.Discovers "notes" ["notes"] found := by
  have hsound : linkedTree.IsSound := by decide +kernel
  have hfolder : linkedTree.isFolder ["notes"] = true := by decide +kernel
  have hname : IsPlainName "notes" := by decide
  have hfind : linkedTree.find "notes" = .ok ["notes"] := by
    rcases isFolder_iff.mp hfolder with hnode | hnode <;> exact hname.find_of_node? hnode (by simp)
  exact ⟨hsound, hfind, hfolder, discovers_of_find hsound hfind hfolder⟩

end FileTree

end Concordance
