import Concordance.Index.Format
import Concordance.Proofs.Index.Merging
import Concordance.Proofs.Json.RoundTrip

/-!
# The files of an index

The two files of an index lose nothing of it. The entries are read back as they are, with the positions of
each term at each location in ascending order, and the index can be built again from them. The counts are
read back as they are, and agree with the entries. Terms and locations may be any texts, and positions any
natural numbers.

## Main definitions

* `Json.natural?`, `Json.list?`, `Json.map?`: numbers, lists and maps as what values stand for
* `Index.readCounts`, `Index.readEntries`: what the files of an index say
* `Index.lists`: the entries of an index, with lists of positions
* `occurrencesListed`, `lengthListed`: what lists of positions say of occurrences and of a location

## Main results

* `map?_record`: a map that is written as a value is what that value stands for
* `readEntries_pretty`, `readCounts_pretty`: what the files of an index say
* `occurrencesListed_lists`: the occurrences in the entries are those of the index
* `files_keep_index`: the files of an index lose nothing of it
-/

namespace Concordance

/-! ## What values stand for -/

namespace Json

variable {α β : Type}

/-- The natural number that a value stands for. -/
def natural? : Json → Option Nat
  | .number numeral => numeral.toNat?
  | _ => none

/-- The list that a value stands for, if each of its items stands for something. -/
def list? (item : Json → Option α) : Json → Option (List α)
  | .array items => items.mapM item
  | _ => none

/-- The entry that a member stands for, if its name is a text and its value stands for something. -/
def member? (value : Json → Option α) (member : Quoted × Json) : Option (String × α) := do
  return (← member.1.text?, ← value member.2)

/-- The map that a value stands for, if each of its members does. Of several members with one name, the
last one counts. -/
def map? (value : Json → Option α) : Json → Option (Std.ExtTreeMap String α)
  | .object members => (members.mapM (member? value)).map fun entries => .ofList entries
  | _ => none

theorem natural?_count (n : Nat) : natural? (.count n) = some n :=
  Numeral.toNat?_ofNat n

/-- If everything in a list can be read, so can the list. -/
theorem mapM_map_of_eq_some {γ : Type} {f : γ → Option α} {g : β → γ} {k : β → α}
    (h : ∀ b, f (g b) = some (k b)) (list : List β) : (list.map g).mapM f = some (list.map k) := by
  induction list with
  | nil => rfl
  | cons b rest ih =>
    rw [List.map_cons, List.mapM_cons, h, ih]
    rfl

theorem list?_array {item : Json → Option α} {write : β → Json} {k : β → α}
    (h : ∀ b, item (write b) = some (k b)) (list : List β) :
    list? item (.array (list.map write)) = some (list.map k) :=
  mapM_map_of_eq_some h list

/-- A map is made again from its entries. -/
theorem ofList_toList (map : Std.ExtTreeMap String α) : Std.ExtTreeMap.ofList map.toList = map := by
  -- no key is listed twice, so it does not show that later entries overwrite earlier ones
  refine Std.ExtTreeMap.ext_getElem? fun key => ?_
  cases hvalue : map[key]? with
  | none =>
    refine Std.ExtTreeMap.getElem?_ofList_of_contains_eq_false ?_
    rw [Std.ExtTreeMap.map_fst_toList_eq_keys, ← Bool.not_eq_true, List.contains_iff_mem,
      Std.ExtTreeMap.mem_keys, Std.ExtTreeMap.mem_iff_isSome_getElem?, hvalue]
    exact Bool.false_ne_true
  | some value =>
    exact Std.ExtTreeMap.getElem?_ofList_of_mem Std.ReflCmp.compare_self
      Std.ExtTreeMap.distinct_keys_toList (Std.ExtTreeMap.mem_toList_iff_getElem?_eq_some.mpr hvalue)

/-- **A map that is written as a value is what that value stands for**, if each of its values is. -/
theorem map?_record {value : Json → Option α} {write : β → Json} {k : β → α}
    (h : ∀ b, value (write b) = some (k b)) (map : Std.ExtTreeMap String β) :
    map? value (.record (map.toList.map fun (key, b) => (key, write b))) =
      some (map.map fun _ b => k b) := by
  let written (entry : String × β) : Quoted × Json := (.text entry.1, write entry.2)
  have hmember (entry : String × β) :
      member? value (written entry) = some (entry.1, k entry.2) := by
    rw [member?, h]
    rfl
  have hrecord : record (map.toList.map fun (key, b) => (key, write b)) =
      .object (map.toList.map written) := by
    rw [record, List.map_map]
    rfl
  rw [hrecord, map?, mapM_map_of_eq_some hmember, Option.map_some,
    ← ofList_toList (map.map fun _ b => k b), Std.ExtTreeMap.toList_map]

theorem isReadable_count (n : Nat) : IsReadable (.count n) :=
  .number (Numeral.read_ofNat n)

end Json

/-! ## What the files of an index say -/

/-- The entries of an index as lists: for each term and each of its locations the positions there. -/
abbrev PositionLists := Std.ExtTreeMap String (Std.ExtTreeMap String (List Nat))

/-- The occurrences that lists of positions say of. -/
def occurrencesListed (entries : PositionLists) : List Occurrence :=
  entries.toList.flatMap fun (term, locations) =>
    locations.toList.flatMap fun (location, positions) =>
      positions.map fun position => ⟨term, location, position⟩

/-- The length of all lists of a location. -/
def lengthListed (entries : PositionLists) (location : String) : Nat :=
  (entries.toList.map fun (_, locations) => (locations.getD location []).length).sum

namespace Index

/-- What the file of the counts says. -/
def readCounts (text : String) : Option (Std.ExtTreeMap String Nat) :=
  (Json.read text).bind (Json.map? Json.natural?)

/-- What the file of the entries says. -/
def readEntries (text : String) : Option PositionLists :=
  (Json.read text).bind (Json.map? (Json.map? (Json.list? Json.natural?)))

/-- The entries of an index with ascending lists of positions. -/
def lists (index : Index) : PositionLists :=
  index.entries.map fun _ postings => postings.map fun _ positions => positions.toList

theorem isReadable_countsJson (index : Index) : index.countsJson.IsReadable := by
  refine .record fun member hmember => ?_
  obtain ⟨entry, -, rfl⟩ := List.mem_map.mp hmember
  exact Json.isReadable_count entry.2

theorem isReadable_positionsJson (positions : Positions) : (positionsJson positions).IsReadable := by
  refine .array fun item hitem => ?_
  obtain ⟨position, -, rfl⟩ := List.mem_map.mp hitem
  exact Json.isReadable_count position

theorem isReadable_postingsJson (postings : Postings) : (postingsJson postings).IsReadable := by
  refine .record fun member hmember => ?_
  obtain ⟨entry, -, rfl⟩ := List.mem_map.mp hmember
  exact isReadable_positionsJson entry.2

theorem isReadable_entriesJson (index : Index) : index.entriesJson.IsReadable := by
  refine .record fun member hmember => ?_
  obtain ⟨entry, -, rfl⟩ := List.mem_map.mp hmember
  exact isReadable_postingsJson entry.2

/-- **The file of the counts says what they are.** -/
theorem readCounts_pretty (index : Index) : readCounts index.countsJson.pretty = some index.counts := by
  rw [readCounts, Json.read_pretty index.isReadable_countsJson, Option.bind_some]
  refine (Json.map?_record (k := id) Json.natural?_count index.counts).trans ?_
  exact congrArg some Std.ExtTreeMap.map_id

/-- **The file of the entries says what they are.** -/
theorem readEntries_pretty (index : Index) :
    readEntries index.entriesJson.pretty = some index.lists := by
  have hpositions (positions : Positions) :
      Json.list? Json.natural? (positionsJson positions) = some positions.toList := by
    refine (Json.list?_array (k := id) Json.natural?_count positions.toList).trans ?_
    rw [List.map_id]
  rw [readEntries, Json.read_pretty index.isReadable_entriesJson, Option.bind_some]
  exact Json.map?_record (fun postings => Json.map?_record hpositions postings) index.entries

/-! ## What the entries say -/

/-- The entries list the positions of each term at each location, and nothing else. -/
theorem getElem?_lists (index : Index) (term location : String) :
    (index.lists[term]?.bind fun locations => locations[location]?) =
      (index.positions? term location).map Std.ExtTreeSet.toList := by
  rw [lists, Std.ExtTreeMap.getElem?_map, positions?, postings?]
  cases index.entries[term]? with
  | none => rfl
  | some postings => exact Std.ExtTreeMap.getElem?_map

/-- The positions are listed in ascending order. -/
theorem pairwise_toList (positions : Positions) : positions.toList.Pairwise (· < ·) :=
  Std.ExtTreeSet.ordered_toList.imp Nat.compare_eq_lt.mp

/-- **The occurrences in the entries are those of the index**, in their order. -/
theorem occurrencesListed_lists (index : Index) :
    occurrencesListed index.lists = index.occurrences := by
  rw [occurrencesListed, lists, Std.ExtTreeMap.toList_map, List.flatMap_map, occurrences]
  refine List.flatMap_congr ?_
  rintro ⟨term, postings⟩ -
  dsimp only
  rw [Std.ExtTreeMap.toList_map, List.flatMap_map]
  rfl

/-- The lists of a location are as long as it has occurrences. -/
theorem lengthListed_lists (index : Index) (location : String) :
    lengthListed index.lists location = index.recount location := by
  rw [lengthListed, lists, Std.ExtTreeMap.toList_map, List.map_map, recount_eq_sum_map, terms,
    ← Std.ExtTreeMap.map_fst_toList_eq_keys, List.map_map]
  refine congrArg List.sum (List.map_congr_left ?_)
  rintro ⟨term, postings⟩ hentry
  have hpostings : index.postings? term = some postings :=
    Std.ExtTreeMap.mem_toList_iff_getElem?_eq_some.mp hentry
  dsimp only [Function.comp_apply]
  rw [frequency, positions?, hpostings, Option.bind_some, Std.ExtTreeMap.getD_eq_getD_getElem?,
    Std.ExtTreeMap.getElem?_map]
  cases postings[location]? with
  | none => rfl
  | some positions => exact Std.ExtTreeSet.length_toList

/-- **The files of an index lose nothing of it.** The file of the entries says for each term and each of
its locations the positions there, in ascending order, and the file of the counts says what they are. The
index can be built again from the occurrences in its entries, in any order, and the count of a location is
the length of its lists. -/
theorem files_keep_index {index : Index} (h : index.Reachable) :
    readEntries index.entriesJson.pretty = some index.lists ∧
      readCounts index.countsJson.pretty = some index.counts ∧
      (∀ (term location : String) (locations : Std.ExtTreeMap String (List Nat)) (positions : List Nat),
        index.lists[term]? = some locations → locations[location]? = some positions →
          positions.Pairwise (· < ·)) ∧
      (∀ occurrences : List Occurrence, occurrences.Perm (occurrencesListed index.lists) →
        build occurrences = index) ∧
      ∀ location, index.counts.getD location 0 = lengthListed index.lists location := by
  refine ⟨index.readEntries_pretty, index.readCounts_pretty, ?_, ?_, ?_⟩
  · intro term location locations positions hterm hlocation
    have hfound := index.getElem?_lists term location
    rw [hterm, Option.bind_some, hlocation] at hfound
    obtain ⟨found, -, rfl⟩ := Option.map_eq_some_iff.mp hfound.symm
    exact pairwise_toList found
  · intro occurrences hperm
    refine (reachable_build occurrences).ext h fun occurrence => ?_
    rw [mem_build, hperm.mem_iff, occurrencesListed_lists, mem_occurrences]
  · intro location
    rw [lengthListed_lists]
    exact h.isConsistent.wordCount_eq location

/-- Terms and locations with characters that need escapes, and the largest position of 64 bits. -/
theorem files_keep_index_escapes :
    let index := build [⟨"\"q\\", "a\nb", 18446744073709551615⟩, ⟨"é\x01", "日本", 1⟩,
      ⟨"\"q\\", "a\nb", 3⟩]
    index.Reachable ∧ readEntries index.entriesJson.pretty = some index.lists ∧
      (index.lists["\"q\\"]?.bind fun locations => locations["a\nb"]?) =
        some [3, 18446744073709551615] ∧
      build (occurrencesListed index.lists) = index ∧ index.counts.getD "a\nb" 0 = 2 ∧
      lengthListed index.lists "a\nb" = 2 := by
  intro index
  have h : index.Reachable := reachable_build _
  obtain ⟨hentries, -, -, hbuild, hlength⟩ := files_keep_index h
  have hcount : index.counts.getD "a\nb" 0 = 2 := by decide
  have hpositions : (index.positions? "\"q\\" "a\nb").map Std.ExtTreeSet.toList =
      some [3, 18446744073709551615] := by decide
  exact ⟨h, hentries, (index.getElem?_lists _ _).trans hpositions, hbuild _ (.refl _), hcount,
    (hlength "a\nb").symm.trans hcount⟩

end Index

end Concordance
