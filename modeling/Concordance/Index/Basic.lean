import Std.Data.ExtTreeMap
import Std.Data.ExtTreeSet

/-!
# The inverted index

An inverted index says for each term where it occurs: at which locations, and at which positions
of each. It also keeps a count of the occurrences at each location, which grows with every new
occurrence and is never computed anew.

## Main definitions

* `Occurrence`: a term at a position of a location
* `Index`: an inverted index
* `Index.record`: adds an occurrence and says whether it was new
* `Index.addTerms`: adds terms at consecutive positions
* `Index.merge`: adds all that another index holds
* `Index.build`: the index of a list of occurrences
-/

namespace Concordance

/-- The positions of one term at one location. -/
abbrev Positions := Std.ExtTreeSet Nat

/-- The positions of one term at each of its locations. -/
abbrev Postings := Std.ExtTreeMap String Positions

/-- A term at a position of a location. -/
structure Occurrence where
  term : String
  location : String
  position : Nat
deriving DecidableEq, Repr, Inhabited

/-- An inverted index: where each term occurs, and how much occurs at each location. -/
structure Index where
  entries : Std.ExtTreeMap String Postings
  counts : Std.ExtTreeMap String Nat
deriving DecidableEq

/-- Adds to the count of a location. -/
def raiseCount (counts : Std.ExtTreeMap String Nat) (location : String) (amount : Nat) :
    Std.ExtTreeMap String Nat :=
  counts.insert location (counts.getD location 0 + amount)

theorem getD_raiseCount (counts : Std.ExtTreeMap String Nat) (location other : String)
    (amount : Nat) :
    (raiseCount counts location amount).getD other 0
      = counts.getD other 0 + if other = location then amount else 0 := by
  unfold raiseCount
  rw [Std.ExtTreeMap.getD_insert]
  by_cases h : other = location
  · simp [h]
  · have hne : location ≠ other := fun e => h e.symm
    simp [h, hne]

namespace Index

/-- The index that holds nothing. -/
def empty : Index := ⟨∅, ∅⟩

instance : EmptyCollection Index := ⟨empty⟩
instance : Inhabited Index := ⟨empty⟩

/-- Where a term occurs. -/
def postings? (index : Index) (term : String) : Option Postings :=
  index.entries[term]?

/-- The positions of a term at a location. -/
def positions? (index : Index) (term location : String) : Option Positions :=
  (index.postings? term).bind fun postings => postings[location]?

/-- Adds an occurrence, and says whether it was new. An occurrence that the index already has
changes nothing. -/
def record (index : Index) (occurrence : Occurrence) : Bool × Index :=
  let postings := (index.postings? occurrence.term).getD ∅
  let positions := postings.getD occurrence.location ∅
  if occurrence.position ∈ positions then (false, index)
  else
    let positions := positions.insert occurrence.position
    (true,
      { entries := index.entries.insert occurrence.term
          (postings.insert occurrence.location positions)
        counts := raiseCount index.counts occurrence.location 1 })

/-- Adds an occurrence. -/
def add (index : Index) (occurrence : Occurrence) : Index :=
  (index.record occurrence).2

/-- Adds terms at consecutive positions of a location. -/
def addTerms (index : Index) (location : String) (start : Nat) : List String → Index
  | [] => index
  | term :: rest => (index.add ⟨term, location, start⟩).addTerms location (start + 1) rest

/-- Adds the postings of a term that the index does not have. -/
def adoptPostings (index : Index) (term : String) (incoming : Postings) : Index where
  entries := index.entries.insert term incoming
  counts := incoming.foldl (fun counts location positions => raiseCount counts location positions.size)
    index.counts

/-- Adds positions to the postings of a term, and what is new to the count of their location. -/
def uniteLocation (state : Postings × Std.ExtTreeMap String Nat) (location : String)
    (incoming : Positions) : Postings × Std.ExtTreeMap String Nat :=
  let before := state.1.getD location ∅
  let after := incoming.foldl (fun positions position => positions.insert position) before
  let added := after.size - before.size
  -- A count that does not grow is left alone, so that none is kept at zero.
  (state.1.insert location after,
    if 0 < added then raiseCount state.2 location added else state.2)

/-- Adds postings to those that the index has for the same term. -/
def unitePostings (index : Index) (term : String) (existing incoming : Postings) : Index :=
  let (postings, counts) := incoming.foldl uniteLocation (existing, index.counts)
  ⟨index.entries.insert term postings, counts⟩

/-- Adds the postings of one term of another index. -/
def mergeTerm (index : Index) (term : String) (incoming : Postings) : Index :=
  match index.postings? term with
  | none => index.adoptPostings term incoming
  | some existing => index.unitePostings term existing incoming

/-- Adds all that another index holds. Each count grows by what was new at its location. -/
def merge (index other : Index) : Index :=
  other.entries.foldl mergeTerm index

/-- The index of a list of occurrences. -/
def build (occurrences : List Occurrence) : Index :=
  occurrences.foldl add empty

end Index

end Concordance
