import Concordance.Proofs.Query.Retrieval
import Concordance.Proofs.Text.Capitals

/-!
# Spellings of a query

A query is known by the set of the chunks of its line, with the letters from A to Z in lowercase. How often
and in which order the chunks stand in the line, which white space is between them, and which of these
letters are capital ones makes no difference. Words are stemmed one by one, so this is so whatever the
stemmer does.

## Main definitions

* `Text.foldedChunks`: the chunks of a line, with the letters from A to Z in lowercase
* `CanonicalQuery.ofLineBy`: the query of a line, with another stemmer

## Main results

* `mem_words_iff`: the words of a line are those of its chunks, in lowercase
* `ofLine_of_foldedChunks`: lines with the same chunks are the same query
-/

namespace Concordance

namespace Text

/-- The chunks of a line, with the letters from A to Z in lowercase. -/
def foldedChunks (line : String) : Finset (List Char) :=
  ((chunks line.toList).map (List.map Char.toLower)).toFinset

/-- **The words of a line are those of its chunks**, in lowercase. -/
theorem mem_words_iff {line word : String} :
    word ∈ words line ↔
      ∃ chunk ∈ foldedChunks line, ∃ letters ∈ wordChars chunk, String.ofList letters = word := by
  simp only [words, (joins_chunks line.toList).wordChars_eq, foldedChunks, List.mem_map,
    List.mem_flatMap, List.mem_toFinset]
  constructor
  · rintro ⟨letters, ⟨chunk, hchunk, hletters⟩, hword⟩
    refine ⟨chunk.map Char.toLower, ⟨chunk, hchunk, rfl⟩, letters, ?_, hword⟩
    rwa [wordChars_map_toLower]
  · rintro ⟨_, ⟨chunk, hchunk, rfl⟩, letters, hletters, hword⟩
    rw [wordChars_map_toLower] at hletters
    exact ⟨letters, ⟨chunk, hchunk, hletters⟩, hword⟩

end Text

namespace CanonicalQuery

variable {line other : String}

/-- The query of a line, with another stemmer. -/
def ofLineBy (stem : String → String) (line : String) : CanonicalQuery :=
  ofTerms (Std.ExtTreeSet.ofList ((Text.words line).map stem))

theorem ofLine_eq_ofLineBy (line : String) : ofLine line = ofLineBy Stem.stem line := by
  rw [ofLine]
  rfl

theorem mem_terms_ofLineBy {stem : String → String} {term : String} :
    term ∈ (ofLineBy stem line).terms ↔ ∃ word ∈ Text.words line, stem word = term := by
  simp [ofLineBy, ofTerms]

/-- Lines with the same words are the same query. -/
theorem ofLineBy_eq (h : ∀ word, word ∈ Text.words line ↔ word ∈ Text.words other)
    (stem : String → String) : ofLineBy stem line = ofLineBy stem other := by
  have hterms : (ofLineBy stem line).terms = (ofLineBy stem other).terms := by
    apply Std.ExtTreeSet.ext_mem
    intro term
    simp only [mem_terms_ofLineBy, h]
  exact congrArg ofTerms hterms

/-- **Lines with the same chunks are the same query**, if their chunks are compared as sets and with the
letters from A to Z in lowercase. They have the same terms and the same key, and would have them with any
other stemmer. -/
theorem ofLine_of_foldedChunks (h : Text.foldedChunks line = Text.foldedChunks other) :
    (∀ stem : String → String, ofLineBy stem line = ofLineBy stem other) ∧
      (ofLine line).terms = (ofLine other).terms ∧ (ofLine line).key = (ofLine other).key := by
  have hwords : ∀ word, word ∈ Text.words line ↔ word ∈ Text.words other := by
    intro word
    rw [Text.mem_words_iff, Text.mem_words_iff, h]
  have hline : ofLine line = ofLine other := by
    rw [ofLine_eq_ofLineBy, ofLine_eq_ofLineBy, ofLineBy_eq hwords]
  exact ⟨ofLineBy_eq hwords, congrArg terms hline, congrArg key hline⟩

/-- Other capital letters, another order, a chunk that is repeated and another white space, in lines with a
final sigma after a capital letter and with an accent on one. -/
theorem ofLine_of_foldedChunks_repeated :
    let line := "Dogs AΣ\u00a0CAFÉ  dogs"
    let other := "\tcafÉ DOGS aΣ"
    Text.foldedChunks line = Text.foldedChunks other ∧
      (ofLine line).terms = (ofLine other).terms ∧ (ofLine line).key = (ofLine other).key ∧
      (ofLine line).key = "aς cafe dog" := by
  intro line other
  have hchunks : Text.foldedChunks line = Text.foldedChunks other := by decide +kernel
  obtain ⟨-, hterms, hkey⟩ := ofLine_of_foldedChunks hchunks
  exact ⟨hchunks, hterms, hkey, by decide +kernel⟩

end CanonicalQuery

end Concordance
