import Concordance.Proofs.Text.Marks
import Concordance.Text.Terms
import Mathlib.Data.List.TakeWhile

/-!
# Texts chunk by chunk

White space decomposes to white space and stays where it is. It has no case, and casing does not look past
it. So what becomes of a chunk of a text does not depend on the text around it: the words of a text are
those of its chunks, one after the other.

## Main definitions

* `Joins`: a text that is made of pieces by putting white space between them

## Main results

* `joins_chunks`: a text is made of its chunks
* `wordChars_append_space`: white space in a text parts its words
* `Joins.wordChars_eq`: the words of a text that is made of pieces are those of the pieces
-/

namespace Concordance.Text

/-! ## White space characters -/

/-- The code points of white space. -/
def whiteSpaceCodes : List Nat := [
  0x9, 0xA, 0xB, 0xC, 0xD, 0x20, 0x85, 0xA0, 0x1680, 0x2000, 0x2001, 0x2002, 0x2003, 0x2004, 0x2005,
  0x2006, 0x2007, 0x2008, 0x2009, 0x200A, 0x2028, 0x2029, 0x202F, 0x205F, 0x3000]

/-- What is true of the listed characters is true of all white space. -/
theorem forall_isWhiteSpace {p : Char → Prop} (h : ∀ n ∈ whiteSpaceCodes, p (Char.ofNat n)) {c : Char}
    (hc : isWhiteSpace c = true) : p c := by
  have hcode : c.toNat ∈ whiteSpaceCodes := by
    simp only [isWhiteSpace, CharacterSet.contains, whiteSpaceSet, CharacterSet.containsFrom,
      Bool.not_false, Bool.not_true, Bool.if_false_right, Bool.if_false_left, Bool.if_true_left,
      Bool.and_true, Bool.and_eq_true, Bool.or_eq_true, Bool.not_eq_eq_eq_not, decide_eq_true_eq,
      decide_eq_false_iff_not, not_lt] at hc
    simp only [whiteSpaceCodes, List.mem_cons, List.not_mem_nil, or_false]
    omega
  have hp := h c.toNat hcode
  rwa [Char.ofNat_toNat] at hp

/-! ## Chunks from the right -/

theorem consChunk_append (d : Char) {pieces : List (List Char)} (hpieces : pieces ≠ [])
    (more : List (List Char)) : consChunk d (pieces ++ more) = consChunk d pieces ++ more := by
  cases pieces with
  | nil => exact absurd rfl hpieces
  | cons piece pieces =>
    rw [List.cons_append, consChunk, consChunk]
    split <;> rfl

theorem foldr_consChunk_ne_nil (text : List Char) : text.foldr consChunk [[]] ≠ [] := by
  cases text with
  | nil => exact List.cons_ne_nil _ _
  | cons d text =>
    rw [List.foldr_cons]
    cases text.foldr consChunk [[]] <;> rw [consChunk] <;> split <;> exact List.cons_ne_nil _ _

theorem foldr_consChunk_append (text : List Char) (more : List (List Char)) :
    text.foldr consChunk ([] :: more) = text.foldr consChunk [[]] ++ more := by
  induction text with
  | nil => rfl
  | cons d text ih =>
    rw [List.foldr_cons, List.foldr_cons, ih, consChunk_append d (foldr_consChunk_ne_nil text)]

section WhiteSpace

variable {c : Char} (hc : isWhiteSpace c = true)

include hc

/-- What cleaning asks of white space: it is no mark and no letter, it is its own lowercase, and it
decomposes to one character of white space. -/
theorem traits_of_isWhiteSpace :
    combiningClass c = 0 ∧ isCased c = false ∧ isCaseIgnorable c = false ∧
      (c ≠ 'Σ' ∧ lowerChar c = [c]) ∧ (decompose c).map isWhiteSpace = [true] :=
  forall_isWhiteSpace (p := fun c => combiningClass c = 0 ∧ isCased c = false ∧
    isCaseIgnorable c = false ∧ (c ≠ 'Σ' ∧ lowerChar c = [c]) ∧
    (decompose c).map isWhiteSpace = [true]) (by decide +kernel) hc

theorem combiningClass_of_isWhiteSpace : combiningClass c = 0 :=
  (traits_of_isWhiteSpace hc).1

theorem isCased_of_isWhiteSpace : isCased c = false :=
  (traits_of_isWhiteSpace hc).2.1

theorem isCaseIgnorable_of_isWhiteSpace : isCaseIgnorable c = false :=
  (traits_of_isWhiteSpace hc).2.2.1

/-- White space is its own lowercase. -/
theorem lowercase_of_isWhiteSpace : c ≠ 'Σ' ∧ lowerChar c = [c] :=
  (traits_of_isWhiteSpace hc).2.2.2.1

/-- White space decomposes to one character of white space. -/
theorem exists_decompose_of_isWhiteSpace :
    ∃ space, isWhiteSpace space = true ∧ decompose c = [space] := by
  obtain ⟨space, hspace, hwhite⟩ := List.map_eq_singleton_iff.mp (traits_of_isWhiteSpace hc).2.2.2.2
  exact ⟨space, hwhite, hspace⟩

/-! ## Decomposing -/

theorem exists_canonicalForm_append_space (text rest : List Char) :
    ∃ space, isWhiteSpace space = true ∧
      canonicalForm (text ++ c :: rest) = canonicalForm text ++ space :: canonicalForm rest := by
  obtain ⟨space, hspace, hdecompose⟩ := exists_decompose_of_isWhiteSpace hc
  refine ⟨space, hspace, ?_⟩
  rw [canonicalForm_eq_arrange, List.flatMap_append, List.flatMap_cons, hdecompose,
    List.singleton_append, arrange_append_of_starter (combiningClass_of_isWhiteSpace hspace)]
  rfl

/-! ## Lowering -/

theorem nearestIsCased_append_space (text rest : List Char) :
    nearestIsCased (text ++ c :: rest) = nearestIsCased text := by
  induction text with
  | nil => simp [nearestIsCased, isCaseIgnorable_of_isWhiteSpace hc, isCased_of_isWhiteSpace hc]
  | cons d text ih =>
    unfold nearestIsCased at ih ⊢
    cases hd : isCaseIgnorable d with
    | true => simpa only [List.cons_append, List.dropWhile_cons, hd, if_true] using ih
    | false => simp only [List.cons_append, List.dropWhile_cons, hd, Bool.false_eq_true, if_false]

/-- What stands before white space does not show after it. -/
theorem lowercaseAfter_append_space_left (before earlier text : List Char) :
    lowercaseAfter (before ++ c :: earlier) text = lowercaseAfter before text := by
  induction text generalizing before with
  | nil => rfl
  | cons d text ih =>
    rw [lowercaseAfter, lowercaseAfter, nearestIsCased_append_space hc, ← List.cons_append, ih]

theorem lowercaseAfter_append_space (before text rest : List Char) :
    lowercaseAfter before (text ++ c :: rest) = lowercaseAfter before text ++ c :: lowercase rest := by
  -- a final sigma looks for letters on both sides, and does not see past white space on either
  induction text generalizing before with
  | nil =>
    obtain ⟨hsigma, hlower⟩ := lowercase_of_isWhiteSpace hc
    simp only [List.nil_append, lowercaseAfter, if_neg hsigma, hlower, List.cons_append]
    exact congrArg (c :: ·) (lowercaseAfter_append_space_left hc [] before rest)
  | cons d text ih =>
    rw [List.cons_append, lowercaseAfter, lowercaseAfter, nearestIsCased_append_space hc, ih,
      List.append_assoc]

/-- White space in a text becomes white space in the cleaned text, and parts what is cleaned. -/
theorem exists_cleanChars_append_space (text rest : List Char) :
    ∃ space, isWhiteSpace space = true ∧
      cleanChars (text ++ c :: rest) = cleanChars text ++ space :: cleanChars rest := by
  obtain ⟨space, hspace, hform⟩ := exists_canonicalForm_append_space hc text rest
  -- the space is what remains of `c` after decomposing, and the two later passes keep it as it is
  have hkept : isKept space = true := by rw [isKept, hspace, Bool.or_true]
  refine ⟨space, hspace, ?_⟩
  rw [cleanChars, hform, List.filter_append, List.filter_cons_of_pos hkept, lowercase,
    lowercaseAfter_append_space hspace]
  rfl

/-! ## Chunks -/

theorem chunks_append_space (text rest : List Char) :
    chunks (text ++ c :: rest) = chunks text ++ chunks rest := by
  have hclose : consChunk c (rest.foldr consChunk [[]]) = [] :: rest.foldr consChunk [[]] := by
    cases rest.foldr consChunk [[]] <;> simp [consChunk, hc]
  rw [chunks, List.foldr_append, List.foldr_cons, hclose, foldr_consChunk_append, List.filter_append]
  rfl

/-- **White space in a text parts its words.** -/
theorem wordChars_append_space (text rest : List Char) :
    wordChars (text ++ c :: rest) = wordChars text ++ wordChars rest := by
  obtain ⟨space, hspace, hclean⟩ := exists_cleanChars_append_space hc text rest
  rw [wordChars, hclean, chunks_append_space hspace]
  rfl

end WhiteSpace

theorem chunks_of_not_isWhiteSpace {text : List Char} (h : ∀ c ∈ text, isWhiteSpace c = false) :
    chunks text = if text = [] then [] else [text] := by
  have hpieces : text.foldr consChunk [[]] = [text] := by
    induction text with
    | nil => rfl
    | cons c text ih =>
      rw [List.forall_mem_cons] at h
      simp [ih h.2, consChunk, h.1]
  rw [chunks, hpieces]
  cases text <;> simp

/-! ## Texts made of pieces -/

/-- A text that is made of pieces by putting white space between them, and perhaps before the first and
after the last. -/
inductive Joins : List (List Char) → List Char → Prop
  | nil : Joins [] []
  | last (piece : List Char) : Joins [piece] piece
  | space {c : Char} {pieces : List (List Char)} {text : List Char} (hc : isWhiteSpace c = true)
    (h : Joins pieces text) : Joins pieces (c :: text)
  | piece {c : Char} {pieces : List (List Char)} {text : List Char} (piece : List Char)
    (hc : isWhiteSpace c = true) (h : Joins pieces text) :
    Joins (piece :: pieces) (piece ++ c :: text)

/-- **A text is made of its chunks.** -/
theorem joins_chunks (text : List Char) : Joins (chunks text) text := by
  -- induction on the length: what stands before the first white space is one chunk
  induction hn : text.length using Nat.strongRecOn generalizing text with
  | ind n ih =>
    have hfirst : ∀ c ∈ text.takeWhile (!isWhiteSpace ·), isWhiteSpace c = false := by
      intro c hc
      simpa using List.mem_takeWhile_imp hc
    have hsplit := List.takeWhile_append_dropWhile (p := (!isWhiteSpace ·)) (l := text)
    cases hrest : text.dropWhile (!isWhiteSpace ·) with
    | nil =>
      -- no white space: the text is its only chunk, if it is one
      rw [hrest, List.append_nil] at hsplit
      rw [hsplit] at hfirst
      rw [chunks_of_not_isWhiteSpace hfirst]
      split
      · next hempty => rw [hempty]; exact .nil
      · exact .last text
    | cons c rest =>
      have hc : isWhiteSpace c = true := by
        have hhead := List.head?_dropWhile_not (!isWhiteSpace ·) text
        rw [hrest] at hhead
        simpa using hhead
      rw [hrest] at hsplit
      have hshorter : rest.length < n := by
        rw [← hn, ← hsplit, List.length_append, List.length_cons]
        omega
      have hjoins := ih rest.length hshorter rest rfl
      rw [← hsplit, chunks_append_space hc, chunks_of_not_isWhiteSpace hfirst]
      split
      · next hempty => rw [hempty]; exact hjoins.space hc
      · exact hjoins.piece _ hc

namespace Joins

variable {pieces : List (List Char)} {text : List Char}

/-- **The words of a text that is made of pieces** are those of the pieces. -/
theorem wordChars_eq (h : Joins pieces text) : wordChars text = pieces.flatMap wordChars := by
  induction h with
  | nil => rfl
  | last piece => rw [List.flatMap_singleton]
  | space hc h ih => exact (wordChars_append_space hc [] _).trans ih
  | piece piece hc h ih => rw [wordChars_append_space hc, ih, List.flatMap_cons]

end Joins

end Concordance.Text
