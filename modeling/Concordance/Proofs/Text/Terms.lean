import Concordance.Proofs.Text.Stems
import Concordance.Text.Terms

/-!
# Terms of a text

A text that was cleaned has letters and white space only, so its words have no apostrophe. Their stems
are not empty, and have no white space in them.

## Main results

* `apostrophe_not_mem_cleanChars`: a cleaned text has no apostrophe
* `ne_empty_of_mem_terms`, `isWhiteSpace_of_mem_terms`: terms are words
-/

namespace Concordance.Text

/-- Lowering a character gives no apostrophe that was none before. -/
theorem lowerCodePoint_ne {runs : List LowerRun} (hruns : ∀ run ∈ runs, '\''.toNat < run.target)
    {n : Nat} (hn : n ≠ '\''.toNat) : lowerCodePoint runs n ≠ '\''.toNat := by
  induction runs with
  | nil => exact hn
  | cons run rest ih =>
    have htarget := hruns run List.mem_cons_self
    rw [lowerCodePoint]
    split
    · exact hn
    · split
      · omega
      · exact ih fun other hother => hruns other (List.mem_cons_of_mem _ hother)

/-- What is no code point becomes the character of code point zero, and everything else itself. -/
theorem eq_toNat_ofNat {n : Nat} (h : (Char.ofNat n).toNat ≠ 0) : n = (Char.ofNat n).toNat := by
  by_cases hvalid : n.isValidChar
  · rw [Char.ofNat, dif_pos hvalid]
    rfl
  · rw [Char.ofNat, dif_neg hvalid] at h
    exact absurd rfl h

theorem apostrophe_not_mem_lowerChar {c : Char} (hc : c ≠ '\'') : '\'' ∉ lowerChar c := by
  have hruns : ∀ run ∈ lowerRuns, '\''.toNat < run.target := by decide +kernel
  have hne : c.toNat ≠ '\''.toNat := fun heq => hc (Char.toNat_inj.mp heq)
  unfold lowerChar
  split
  · decide
  · -- an apostrophe would be the target of a run, and all of these are greater
    intro hmem
    have heq := congrArg Char.toNat (List.mem_singleton.mp hmem)
    apply lowerCodePoint_ne hruns hne
    have hcode : (Char.ofNat (lowerCodePoint lowerRuns c.toNat)).toNat ≠ 0 := by
      rw [← heq]
      decide
    exact (eq_toNat_ofNat hcode).trans heq.symm

theorem apostrophe_not_mem_lowercaseAfter {text : List Char} (h : '\'' ∉ text) (before : List Char) :
    '\'' ∉ lowercaseAfter before text := by
  induction text generalizing before with
  | nil => exact List.not_mem_nil
  | cons c rest ih =>
    rw [List.mem_cons, not_or] at h
    rw [lowercaseAfter, List.mem_append, not_or]
    refine ⟨?_, ih h.2 _⟩
    split
    · split <;> decide
    · exact apostrophe_not_mem_lowerChar (Ne.symm h.1)

/-- Cleaning drops every apostrophe. -/
theorem apostrophe_not_mem_cleanChars (text : List Char) : '\'' ∉ cleanChars text := by
  apply apostrophe_not_mem_lowercaseAfter
  intro hmem
  have hkept := (List.mem_filter.mp hmem).2
  exact absurd hkept (by decide)

theorem mem_of_mem_consChunk {d : Char} {pieces : List (List Char)} {piece : List Char}
    (h : piece ∈ consChunk d pieces) {c : Char} (hc : c ∈ piece) :
    c = d ∨ ∃ other ∈ pieces, c ∈ other := by
  cases pieces with
  | nil =>
    left
    unfold consChunk at h
    dsimp only at h
    split at h
    · rw [List.mem_singleton.mp h] at hc
      cases hc
    · rw [List.mem_singleton.mp h] at hc
      exact List.mem_singleton.mp hc
  | cons first rest =>
    unfold consChunk at h
    dsimp only at h
    split at h
    · rcases List.mem_cons.mp h with rfl | h
      · cases hc
      · exact .inr ⟨piece, h, hc⟩
    · rcases List.mem_cons.mp h with rfl | h
      · rcases List.mem_cons.mp hc with rfl | hc
        · exact .inl rfl
        · exact .inr ⟨first, List.mem_cons_self, hc⟩
      · exact .inr ⟨piece, List.mem_cons_of_mem _ h, hc⟩

/-- The pieces of a text have no characters but those of the text. -/
theorem mem_of_mem_chunks {text chunk : List Char} (h : chunk ∈ chunks text) {c : Char}
    (hc : c ∈ chunk) : c ∈ text := by
  have hpieces : ∀ piece ∈ text.foldr consChunk [[]], ∀ c ∈ piece, c ∈ text := by
    clear h hc
    induction text with
    | nil => simp
    | cons d text ih =>
      intro piece hpiece c hc
      rcases mem_of_mem_consChunk hpiece hc with rfl | ⟨other, hother, hc⟩
      · exact List.mem_cons_self
      · exact List.mem_cons_of_mem _ (ih other hother c hc)
  exact hpieces chunk (List.mem_filter.mp h).1 c hc

/-- The stems of the words of a text have letters, and none of them is white space. -/
theorem isProper_of_mem_wordChars {text word : List Char} (h : word ∈ wordChars text) :
    Stem.IsProper (isWhiteSpace · = false) (Stem.stemChars word) := by
  have hword : Stem.IsProper (isWhiteSpace · = false) word :=
    ⟨chunks_ne_nil h, isWhiteSpace_of_mem_chunks h⟩
  -- As a check of the list: a statement about all characters may be decided over all of them.
  have hchecked : Stem.letters.all (!isWhiteSpace ·) = true := by decide +kernel
  have hletters : ∀ c ∈ Stem.letters, isWhiteSpace c = false := by
    simpa only [List.all_eq_true, Bool.not_eq_true'] using hchecked
  apply Stem.isProper_stemChars hword hletters
  exact fun hmem => apostrophe_not_mem_cleanChars text (mem_of_mem_chunks h hmem)

theorem isProper_of_mem_terms {text term : String} (h : term ∈ terms text) :
    Stem.IsProper (isWhiteSpace · = false) term.toList := by
  rcases List.mem_map.mp h with ⟨word, hword, rfl⟩
  rcases List.mem_map.mp hword with ⟨letters, hletters, rfl⟩
  rw [Stem.stem, String.toList_ofList, String.toList_ofList]
  exact isProper_of_mem_wordChars hletters

/-- **No term is empty.** -/
theorem ne_empty_of_mem_terms {text term : String} (h : term ∈ terms text) : term ≠ "" := by
  rintro rfl
  exact (isProper_of_mem_terms h).ne_nil rfl

/-- **No term has white space in it.** -/
theorem isWhiteSpace_of_mem_terms {text term : String} (h : term ∈ terms text) :
    ∀ c ∈ term.toList, isWhiteSpace c = false :=
  (isProper_of_mem_terms h).letter

end Concordance.Text
