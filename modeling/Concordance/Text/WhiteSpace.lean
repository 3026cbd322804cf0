import Concordance.Text.CharacterSet

/-!
# White space

The Unicode property `White_Space`, and the two ways the library uses it: cutting a text into
the chunks between white space, and taking white space off the ends of a text.

## Main definitions

* `isWhiteSpace`: whether a character is white space
* `chunks`: the maximal pieces of a text without white space
* `trim`, `trimStart`: a text without the white space at its ends, or at its start
-/

namespace Concordance.Text

/-- The bounds of the runs of white space. -/
def whiteSpaceSet : CharacterSet := ⟨[
  0x9, 0xE, 0x20, 0x21, 0x85, 0x86, 0xA0, 0xA1, 0x1680, 0x1681, 0x2000, 0x200B, 0x2028, 0x202A,
  0x202F, 0x2030, 0x205F, 0x2060, 0x3000, 0x3001]⟩

/-- A character that separates words. -/
def isWhiteSpace (c : Char) : Bool :=
  whiteSpaceSet.contains c

/-- Adds a character in front of chunks whose first is still open: white space closes it. -/
def consChunk (c : Char) : List (List Char) → List (List Char)
  | [] => if isWhiteSpace c then [[]] else [[c]]
  | chunk :: rest => if isWhiteSpace c then [] :: chunk :: rest else (c :: chunk) :: rest

/-- The maximal pieces of a text without white space, in order; none of them is empty. -/
def chunks (text : List Char) : List (List Char) :=
  (text.foldr consChunk [[]]).filter (fun chunk => !chunk.isEmpty)

/-- A text without the white space it starts with. -/
def trimStart (text : List Char) : List Char :=
  text.dropWhile isWhiteSpace

/-- A text without the white space at its ends. -/
def trim (text : List Char) : List Char :=
  (trimStart (trimStart text).reverse).reverse

theorem chunks_ne_nil {text chunk : List Char} (h : chunk ∈ chunks text) : chunk ≠ [] := by
  simp [chunks] at h
  exact h.2

theorem whiteSpace_not_mem_consChunk {c : Char} {pieces : List (List Char)}
    (h : ∀ piece ∈ pieces, ∀ d ∈ piece, isWhiteSpace d = false) :
    ∀ piece ∈ consChunk c pieces, ∀ d ∈ piece, isWhiteSpace d = false := by
  cases pieces with
  | nil =>
    by_cases hc : isWhiteSpace c = true <;> simp [consChunk, hc]
  | cons first rest =>
    rw [List.forall_mem_cons] at h
    by_cases hc : isWhiteSpace c = true
    · simpa [consChunk, hc] using h
    · have hc : isWhiteSpace c = false := by simpa using hc
      simp only [consChunk, hc, Bool.false_eq_true, if_false, List.forall_mem_cons]
      exact ⟨⟨trivial, h.1⟩, h.2⟩

/-- A chunk has no white space in it. -/
theorem isWhiteSpace_of_mem_chunks {text chunk : List Char} (h : chunk ∈ chunks text) :
    ∀ c ∈ chunk, isWhiteSpace c = false := by
  have all : ∀ piece ∈ text.foldr consChunk [[]], ∀ d ∈ piece, isWhiteSpace d = false := by
    clear h
    induction text with
    | nil => simp
    | cons c text ih => exact whiteSpace_not_mem_consChunk ih
  exact all chunk (List.mem_filter.1 h).1

end Concordance.Text
