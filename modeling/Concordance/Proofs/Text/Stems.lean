import Concordance.Stem.English

/-!
# Stems are words

A stem has letters of its word and letters that the stemmer writes, and no others. A word that has any
letters has a stem with some: no suffix goes unless a letter stands before it. For a word that has an
apostrophe this would not hold, since the apostrophe is part of an ending.

## Main definitions

* `letters`: the letters that the stemmer writes
* `IsProper`: a word that has letters, all of one kind

## Main results

* `isProper_stemChars`: the stem of a word is a word
-/

namespace Concordance.Stem

/-- The letters that the stemmer writes. -/
def letters : List Char :=
  "abcdefghijklmnopqrstuvwxyzY".toList

/-- A word that has letters, all of one kind. -/
structure IsProper (kind : Char → Prop) (word : List Char) : Prop where
  ne_nil : word ≠ []
  letter : ∀ c ∈ word, kind c

variable {kind : Char → Prop} {word : List Char}

/-! ## Single steps -/

/-- Letters of a word before others of the kind are a word if there are some. -/
theorem IsProper.append (h : IsProper kind word) {stem rest more : List Char}
    (hword : word = stem ++ rest) (hne : stem ++ more ≠ []) (hmore : ∀ c ∈ more, kind c) :
    IsProper kind (stem ++ more) := by
  refine ⟨hne, ?_⟩
  intro c hc
  rcases List.mem_append.mp hc with hc | hc
  · exact h.letter c (by rw [hword]; exact List.mem_append_left _ hc)
  · exact hmore c hc

theorem eq_append_of_findRule {rules : List SuffixRule} {rule : SuffixRule} {stem : List Char}
    (h : findRule rules word = some (rule, stem)) : rule ∈ rules ∧ word = stem ++ rule.suffix := by
  rcases List.exists_of_findSome?_eq_some h with ⟨found, hfound, hstem⟩
  rcases Option.map_eq_some_iff.mp hstem with ⟨before, hbefore, heq⟩
  cases heq
  exact ⟨hfound, beforeSuffix_eq_some_iff.mp hbefore⟩

/-- A rule that leaves a letter before its suffix leaves a word. -/
theorem IsProper.applyLongest (h : IsProper kind word) (hletters : ∀ c ∈ letters, kind c)
    {region : Nat} (hregion : 1 ≤ region) {rules : List SuffixRule}
    (hrules : ∀ rule ∈ rules, rule.replacement ⊆ letters) :
    IsProper kind (applyLongest region rules word) := by
  unfold Stem.applyLongest
  split
  · exact h
  · next rule stem hfound =>
    split
    · next happlies =>
      obtain ⟨hrule, hword⟩ := eq_append_of_findRule hfound
      apply h.append hword
      · -- the region starts after a letter, which the rule leaves
        rw [← List.length_pos_iff, List.length_append]
        omega
      · intro c hc
        exact hletters c (hrules rule hrule hc)
    · exact h

/-- A word without an apostrophe has no ending of the possessive. -/
theorem dropPossessive_eq (h : '\'' ∉ word) : dropPossessive word = word := by
  unfold dropPossessive Stem.applyLongest
  split
  · rfl
  · next rule stem hfound =>
    obtain ⟨hrule, hword⟩ := eq_append_of_findRule hfound
    have hsuffix : '\'' ∈ rule.suffix := by
      simp only [List.mem_cons, List.not_mem_nil, or_false] at hrule
      rcases hrule with rfl | rfl | rfl <;> decide
    exact absurd (by rw [hword]; exact List.mem_append_right _ hsuffix) h

/-- The reverse of letters of a word, before others of the kind, is a word if there are some. -/
theorem IsProper.reverse (h : IsProper kind word) {stem : List Char} (hne : stem ≠ [])
    (hstem : ∀ c ∈ stem, c ∈ word.reverse ∨ kind c) : IsProper kind stem.reverse := by
  refine ⟨by simpa using hne, ?_⟩
  intro c hc
  rcases hstem c (List.mem_reverse.mp hc) with hc | hc
  · exact h.letter c (List.mem_reverse.mp hc)
  · exact hc

theorem IsProper.dropPlural (h : IsProper kind word) : IsProper kind (dropPlural word) := by
  have hreverse : ∀ {stem : List Char}, stem ≠ [] → stem ⊆ word.reverse →
      IsProper kind stem.reverse := fun hne hsubset => h.reverse hne fun c hc => .inl (hsubset hc)
  unfold Stem.dropPlural
  split
  case h_1 stem hword => exact hreverse (by simp) (by simp [hword])
  case h_2 stem hword =>
    split
    · exact hreverse (by simp) (by simp [hword])
    · exact hreverse (by simp) (by simp [hword])
  case h_3 stem hword =>
    split
    · exact hreverse (by simp) (by simp [hword])
    · exact hreverse (by simp) (by simp [hword])
  case h_6 stem _ _ _ _ hword =>
    split
    · next hvowel =>
      -- the vowel stays
      have hne : stem ≠ [] := by
        rintro rfl
        cases hvowel
      exact hreverse hne (by simp [hword])
    · exact h
  all_goals exact h

theorem IsProper.mendEnding (h : IsProper kind word) (hletters : ∀ c ∈ letters, kind c)
    (regions : Regions) : IsProper kind (mendEnding regions word) := by
  have hlonger : IsProper kind (word ++ ['e']) := by
    apply h.append (List.append_nil word).symm (by simp)
    intro c hc
    rw [List.mem_singleton.mp hc]
    exact hletters 'e' (by decide)
  unfold Stem.mendEnding
  split
  · exact hlonger
  · split
    · next hdoubled =>
      -- of two letters one stays
      obtain ⟨c, -, hsuffix⟩ := List.any_eq_true.mp hdoubled
      have hlength := (List.isSuffixOf_iff_suffix.mp hsuffix).length_le
      refine ⟨?_, fun d hd => h.letter d (List.dropLast_subset word hd)⟩
      rw [← List.length_pos_iff, List.length_dropLast]
      simp only [List.length_cons, List.length_nil] at hlength
      omega
    · split
      · exact hlonger
      · exact h

theorem IsProper.dropTense (h : IsProper kind word) (hletters : ∀ c ∈ letters, kind c)
    (regions : Regions) : IsProper kind (dropTense regions word) := by
  unfold Stem.dropTense
  split
  · exact h
  · next rule stem hfound =>
    obtain ⟨hrule, hword⟩ := eq_append_of_findRule hfound
    split
    · split
      · next hvowel =>
        -- the vowel stays
        have hstem : IsProper kind stem := by
          refine ⟨?_, fun c hc => h.letter c (by rw [hword]; exact List.mem_append_left _ hc)⟩
          rintro rfl
          cases hvowel
        exact hstem.mendEnding hletters regions
      · exact h
    · next hreplacement =>
      split
      · apply h.append hword (by simp [hreplacement])
        intro c hc
        have hsubset : rule.replacement ⊆ letters := by
          simp only [List.mem_cons, List.not_mem_nil, or_false] at hrule
          rcases hrule with rfl | rfl | rfl | rfl | rfl | rfl <;> decide
        exact hletters c (hsubset hc)
      · exact h

theorem IsProper.replaceFinalY (h : IsProper kind word) (hletters : ∀ c ∈ letters, kind c) :
    IsProper kind (replaceFinalY word) := by
  unfold Stem.replaceFinalY
  split
  · next c b a rest hword =>
    split
    · apply h.reverse (by simp)
      intro d hd
      rcases List.mem_cons.mp hd with rfl | hd
      · exact .inr (hletters 'i' (by decide))
      · left
        rw [hword]
        exact List.mem_cons_of_mem _ hd
    · exact h
  · exact h

theorem IsProper.dropFinalLetter (h : IsProper kind word) {regions : Regions}
    (hfirst : 1 ≤ regions.first) (hsecond : 1 ≤ regions.second) :
    IsProper kind (dropFinalLetter regions word) := by
  unfold Stem.dropFinalLetter
  split
  · next rest hword =>
    split
    · next hlong =>
      have hne : rest ≠ [] := by
        rintro rfl
        simp only [List.length_nil] at hlong
        omega
      exact h.reverse hne fun c hc => .inl (by rw [hword]; exact List.mem_cons_of_mem _ hc)
    · exact h
  · next rest hword =>
    split
    · exact h.reverse (by simp) fun c hc => .inl (by rw [hword]; exact List.mem_cons_of_mem _ hc)
    · exact h
  · exact h

/-! ## Whole words -/

theorem replacement_shortenSuffixes :
    ∀ rule ∈ shortenSuffixes, rule.replacement ⊆ letters := by
  decide +kernel

theorem replacement_dropDerivations :
    ∀ rule ∈ dropDerivations, rule.replacement ⊆ letters := by
  decide +kernel

theorem replacement_shortenDerivations (regions : Regions) :
    ∀ rule ∈ shortenDerivations regions, rule.replacement ⊆ letters := by
  intro rule hrule
  simp only [shortenDerivations, List.mem_cons, List.not_mem_nil, or_false] at hrule
  rcases hrule with rfl | rfl | rfl | rfl | rfl | rfl | rfl | rfl | rfl
  all_goals
    dsimp only [always, provided]
    decide

theorem IsProper.dropSuffixes (h : IsProper kind word) (hletters : ∀ c ∈ letters, kind c)
    {regions : Regions} (hfirst : 1 ≤ regions.first) (hsecond : 1 ≤ regions.second) :
    IsProper kind (dropSuffixes regions word) := by
  have htense := (h.dropTense hletters regions).replaceFinalY hletters
  have hshort := htense.applyLongest hletters hfirst replacement_shortenSuffixes
  have hderived := hshort.applyLongest hletters hfirst (replacement_shortenDerivations regions)
  have hdropped := hderived.applyLongest hletters hsecond replacement_dropDerivations
  exact hdropped.dropFinalLetter hfirst hsecond

theorem one_le_syllableLength {more : Nat} (h : syllableLength word = some more) : 1 ≤ more := by
  unfold syllableLength at h
  dsimp only at h
  split at h
  · cases h
  · cases h
    omega

/-- Some letter of a word stands before its regions. -/
theorem one_le_regions (hne : word ≠ []) :
    1 ≤ (Regions.ofWord word).first ∧ 1 ≤ (Regions.ofWord word).second := by
  have hlength := List.length_pos_iff.mpr hne
  have hfirst : 1 ≤ firstRegion word := by
    unfold firstRegion
    split
    · next beginning hfound =>
      have hlong : ∀ long ∈ longBeginnings, 1 ≤ long.length := by decide
      exact hlong beginning (List.mem_of_find?_eq_some hfound)
    · cases hmore : syllableLength word with
      | none => exact hlength
      | some more => exact one_le_syllableLength hmore
  unfold Regions.ofWord
  dsimp only
  split
  · exact ⟨hfirst, Nat.le_add_right_of_le hfirst⟩
  · exact ⟨hfirst, hlength⟩

/-- A letter with its mark is the letter or a capital Y. -/
theorem mem_markConsonantYAfter {vowelBefore : Bool} {c : Char}
    (h : c ∈ markConsonantYAfter vowelBefore word) : c ∈ word ∨ c = 'Y' := by
  induction word generalizing vowelBefore with
  | nil => cases h
  | cons d rest ih =>
    rw [markConsonantYAfter, List.mem_cons] at h
    rcases h with rfl | h
    · split
      · exact .inr rfl
      · exact .inl List.mem_cons_self
    · exact (ih h).imp_left (List.mem_cons_of_mem _)

theorem IsProper.markConsonantY (h : IsProper kind word) (hletters : ∀ c ∈ letters, kind c) :
    IsProper kind (markConsonantY word) := by
  constructor
  · rw [← List.length_pos_iff, length_markConsonantY]
    exact List.length_pos_iff.mpr h.ne_nil
  · intro c hc
    rcases mem_markConsonantYAfter hc with hc | rfl
    · exact h.letter c hc
    · exact hletters 'Y' (by decide)

theorem IsProper.unmarkY (h : IsProper kind word) (hletters : ∀ c ∈ letters, kind c) :
    IsProper kind (unmarkY word) := by
  constructor
  · simpa [Stem.unmarkY] using h.ne_nil
  · intro c hc
    rcases List.mem_map.mp hc with ⟨d, hd, rfl⟩
    split
    · exact hletters 'y' (by decide)
    · exact h.letter d hd

theorem IsProper.stemRegular (h : IsProper kind word) (hletters : ∀ c ∈ letters, kind c)
    (hapostrophe : '\'' ∉ word) : IsProper kind (stemRegular word) := by
  have hhead : word.head? ≠ some '\'' := fun hhead => hapostrophe (List.mem_of_head? hhead)
  have hmarked := h.markConsonantY hletters
  have hplain : '\'' ∉ Stem.markConsonantY word := by
    intro hmem
    rcases mem_markConsonantYAfter hmem with hmem | heq
    · exact hapostrophe hmem
    · cases heq
  obtain ⟨hfirst, hsecond⟩ := one_le_regions hmarked.ne_nil
  have hsingular := hmarked.dropPlural
  have hdropped := hsingular.dropSuffixes hletters hfirst hsecond
  unfold Stem.stemRegular
  dsimp only
  rw [if_neg hhead, dropPossessive_eq hplain]
  split
  · split
    · exact hsingular
    · exact hdropped
  · split
    · exact hsingular.unmarkY hletters
    · exact hdropped.unmarkY hletters

/-- **The stem of a word is a word** of the same kind, if the letters that the stemmer writes are of this
kind and the word has no apostrophe. -/
theorem isProper_stemChars (h : IsProper kind word) (hletters : ∀ c ∈ letters, kind c)
    (hapostrophe : '\'' ∉ word) : IsProper kind (stemChars word) := by
  unfold stemChars
  split
  · next entry stem hfound =>
    have hentries : ∀ entry ∈ exceptions, entry.2.toList ≠ [] ∧ entry.2.toList ⊆ letters := by
      decide +kernel
    obtain ⟨hne, hsubset⟩ := hentries _ (List.mem_of_find?_eq_some hfound)
    exact ⟨hne, fun c hc => hletters c (hsubset hc)⟩
  · split
    · exact h
    · exact h.stemRegular hletters hapostrophe

end Concordance.Stem
