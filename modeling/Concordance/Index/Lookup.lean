import Concordance.Index.Basic

/-!
# Looking things up in an index

## Main definitions

* `Index.frequency`, `Index.documentFrequency`, `Index.wordCount`: how much occurs
* `Index.locations`, `Index.terms`: what occurs, in ascending order
* `Index.occurrences`: all that an index holds
* `Index.recount`: the count of a location, from its occurrences
* `Index.absorb`: adds another index, without touching this one if the other is empty
* `Index.describe`: the size of an index in words
-/

namespace Concordance

namespace Index

def hasTerm (index : Index) (term : String) : Bool :=
  index.entries.contains term

/-- Whether a term occurs at a location. -/
def hasLocation (index : Index) (term location : String) : Bool :=
  (index.positions? term location).isSome

def hasPosition (index : Index) (term location : String) (position : Nat) : Bool :=
  match index.positions? term location with
  | some positions => positions.contains position
  | none => false

/-- An occurrence is new to an index that does not have its position. -/
theorem record_fst (index : Index) (occurrence : Occurrence) :
    (index.record occurrence).1
      = !index.hasPosition occurrence.term occurrence.location occurrence.position := by
  unfold record hasPosition positions?
  cases hpostings : index.postings? occurrence.term with
  | none => simp
  | some postings =>
    cases hpositions : postings[occurrence.location]? with
    | none => simp [Std.ExtTreeMap.getD_eq_getD_getElem?, hpositions]
    | some positions =>
      have hmem : occurrence.position ∈ positions ↔ positions.contains occurrence.position = true :=
        Std.ExtTreeSet.mem_iff_contains
      by_cases h : positions.contains occurrence.position = true <;>
        simp [Std.ExtTreeMap.getD_eq_getD_getElem?, hpositions, hmem, h]

theorem add_of_hasPosition {index : Index} {occurrence : Occurrence}
    (h : index.hasPosition occurrence.term occurrence.location occurrence.position = true) :
    index.add occurrence = index := by
  have hold := record_fst index occurrence
  rw [h] at hold
  unfold add
  unfold record at hold ⊢
  dsimp only at hold ⊢
  split
  · rfl
  · next hnew => simp [hnew] at hold

/-- Whether anything occurs at a location. -/
def hasCount (index : Index) (location : String) : Bool :=
  index.counts.contains location

/-- The locations of a term, in ascending order. -/
def locations (index : Index) (term : String) : List String :=
  match index.postings? term with
  | some postings => postings.keys
  | none => []

/-- How often a term occurs at a location. -/
def frequency (index : Index) (term location : String) : Nat :=
  match index.positions? term location with
  | some positions => positions.size
  | none => 0

/-- At how many locations a term occurs. -/
def documentFrequency (index : Index) (term : String) : Nat :=
  match index.postings? term with
  | some postings => postings.size
  | none => 0

/-- How much occurs at a location. -/
def wordCount (index : Index) (location : String) : Nat :=
  index.counts.getD location 0

/-- The indexed terms, in ascending order. -/
def terms (index : Index) : List String :=
  index.entries.keys

def termCount (index : Index) : Nat :=
  index.entries.size

def locationCount (index : Index) : Nat :=
  index.counts.size

def isEmpty (index : Index) : Bool :=
  index.entries.isEmpty

/-- The occurrences of one term, by ascending location and position. -/
def occurrencesOf (term : String) (postings : Postings) : List Occurrence :=
  postings.toList.flatMap fun (location, positions) =>
    positions.toList.map fun position => ⟨term, location, position⟩

/-- All that an index holds, by ascending term, location and position. -/
def occurrences (index : Index) : List Occurrence :=
  index.entries.toList.flatMap fun (term, postings) => occurrencesOf term postings

/-- How much occurs at a location, found by going through all terms. -/
def recount (index : Index) (location : String) : Nat :=
  index.terms.foldl (fun count term => count + index.frequency term location) 0

/-- Adds all that another index holds, unless that is nothing. -/
def absorb (index other : Index) : Index :=
  if other.isEmpty then index else index.merge other

/-- The size of an index in words. -/
def describe (index : Index) : String :=
  "InvertedIndex(" ++ toString index.termCount ++ " terms, " ++ toString index.locationCount
    ++ " locations)"

end Index

end Concordance
