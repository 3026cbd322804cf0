import Concordance.Markup.Span

/-!
# Texts made of spans and of what is between them

Spans are taken from left to right, so what becomes of a text is known piece by piece: a piece in which
no span starts stays, and a piece that is one span goes as a whole. For a kind of span that is described
by what it looks like, the text without its spans is what is left when the leftmost span is deleted again
and again, each time behind the one before.

## Main definitions

* `IsFreeBefore`, `IsFree`: no span starts inside a text
* `IsWholeSpan`: a text is one span
* `Measures`: a span function finds the spans of a given form
* `LeftmostCut`: a text, and what is left of it without its leftmost spans

## Main results

* `removeSpans_flatMap`, `filterMap_findSpans_flatMap`: spans go piece by piece
* `Measures.leftmostCut_iff`: deleting spans is cutting out the leftmost ones
-/

namespace Concordance.Markup

variable {spanLength : List Char → Nat} {replacement : List Char → List Char}
  {text rest : List Char}

/-- No span starts inside a text that is followed by `rest`. -/
def IsFreeBefore (spanLength : List Char → Nat) (text rest : List Char) : Prop :=
  ∀ tail, tail <:+ text → tail ≠ [] → spanLength (tail ++ rest) = 0

/-- No span starts inside a text, whatever follows it. -/
def IsFree (spanLength : List Char → Nat) (text : List Char) : Prop :=
  ∀ rest, IsFreeBefore spanLength text rest

/-- A text is one span, whatever follows it. -/
structure IsWholeSpan (spanLength : List Char → Nat) (text : List Char) : Prop where
  ne_nil : text ≠ []
  length_eq : ∀ rest, spanLength (text ++ rest) = text.length

/-- All spans start with the same character. -/
def OpensWith (spanLength : List Char → Nat) (mark : Char) : Prop :=
  ∀ c rest, c ≠ mark → spanLength (c :: rest) = 0

theorem lengthWhile_append_cons {p : Char → Bool} {c : Char} (htext : ∀ d ∈ text, p d = true)
    (hc : p c = false) (rest : List Char) : lengthWhile p (text ++ c :: rest) = text.length := by
  rw [lengthWhile_eq, List.takeWhile_append_of_pos htext, List.takeWhile_cons_of_neg (by simp [hc]),
    List.append_nil]

/-- What stands at the start of a text and has no part in what the text goes on with. -/
theorem prefix_of_prefix_append_cons {word : List Char} {c : Char} (h : word <+: text ++ c :: rest)
    (hc : c ∉ word) : word <+: text := by
  rcases List.prefix_or_prefix_of_prefix h (List.prefix_append text _) with hword | ⟨more, rfl⟩
  · exact hword
  · cases more with
    | nil => simp
    | cons d more =>
      rw [List.prefix_append_right_inj, List.cons_prefix_cons] at h
      exact absurd (by simp [h.1]) hc

/-! ## Texts in which no span starts -/

section Free

@[simp] theorem isFreeBefore_nil : IsFreeBefore spanLength [] rest :=
  fun _ htail hne => absurd (List.suffix_nil.mp htail) hne

theorem isFreeBefore_cons {c : Char} :
    IsFreeBefore spanLength (c :: text) rest ↔
      spanLength (c :: (text ++ rest)) = 0 ∧ IsFreeBefore spanLength text rest := by
  constructor
  · intro h
    exact ⟨h (c :: text) (List.suffix_refl _) (List.cons_ne_nil c text),
      fun tail htail => h tail (htail.trans (List.suffix_cons c text))⟩
  · rintro ⟨hhere, hlater⟩ tail htail hne
    rcases List.suffix_cons_iff.mp htail with rfl | htail
    · exact hhere
    · exact hlater tail htail hne

theorem IsFreeBefore.append {more : List Char} (h : IsFreeBefore spanLength text (more ++ rest))
    (hmore : IsFreeBefore spanLength more rest) : IsFreeBefore spanLength (text ++ more) rest := by
  induction text with
  | nil => exact hmore
  | cons c text ih =>
    rw [isFreeBefore_cons] at h
    rw [List.cons_append, isFreeBefore_cons, List.append_assoc]
    exact ⟨h.1, ih h.2⟩

theorem IsFree.append {more : List Char} (h : IsFree spanLength text)
    (hmore : IsFree spanLength more) : IsFree spanLength (text ++ more) :=
  fun rest => (h (more ++ rest)).append (hmore rest)

theorem IsFree.flatMap {Piece : Type} {write : Piece → List Char} {pieces : List Piece}
    (h : ∀ piece ∈ pieces, IsFree spanLength (write piece)) :
    IsFree spanLength (pieces.flatMap write) := by
  induction pieces with
  | nil => exact fun _ => isFreeBefore_nil
  | cons piece pieces ih =>
    rw [List.forall_mem_cons] at h
    rw [List.flatMap_cons]
    exact h.1.append (ih h.2)

variable {mark : Char}

theorem OpensWith.isFree (h : OpensWith spanLength mark) (hmark : mark ∉ text) :
    IsFree spanLength text := by
  intro rest
  induction text with
  | nil => exact isFreeBefore_nil
  | cons c text ih =>
    rw [List.mem_cons, not_or] at hmark
    exact isFreeBefore_cons.mpr ⟨h c _ (Ne.symm hmark.1), ih hmark.2⟩

/-- Where the opening character stands only at the start of a text, a span can start only there. -/
theorem OpensWith.isFree_cons (h : OpensWith spanLength mark) (hmark : mark ∉ text)
    (hhere : ∀ rest, spanLength (mark :: (text ++ rest)) = 0) : IsFree spanLength (mark :: text) :=
  fun rest => isFreeBefore_cons.mpr ⟨hhere rest, h.isFree hmark rest⟩

end Free

/-! ## Replacing, deleting and finding spans -/

section Replace

@[simp] theorem replaceSpans_nil : replaceSpans spanLength replacement [] = [] := rfl

@[simp] theorem removeSpans_nil : removeSpans spanLength [] = [] := rfl

theorem replaceSpans_append_of_isFreeBefore (h : IsFreeBefore spanLength text rest) :
    replaceSpans spanLength replacement (text ++ rest)
      = text ++ replaceSpans spanLength replacement rest := by
  induction text with
  | nil => rfl
  | cons c text ih =>
    rw [isFreeBefore_cons] at h
    rw [List.cons_append, replaceSpans_of_no_span h.1, ih h.2, List.cons_append]

theorem IsWholeSpan.pos (h : IsWholeSpan spanLength text) (rest : List Char) :
    0 < spanLength (text ++ rest) := by
  rw [h.length_eq]
  exact List.length_pos_iff.mpr h.ne_nil

theorem replaceSpans_append_of_isWholeSpan (h : IsWholeSpan spanLength text) (rest : List Char) :
    replaceSpans spanLength replacement (text ++ rest)
      = replacement text ++ replaceSpans spanLength replacement rest := by
  rw [replaceSpans_of_span (h.pos rest) (List.append_ne_nil_of_left_ne_nil h.ne_nil rest), h.length_eq,
    List.take_left, List.drop_left]

theorem removeSpans_append_of_isFreeBefore (h : IsFreeBefore spanLength text rest) :
    removeSpans spanLength (text ++ rest) = text ++ removeSpans spanLength rest :=
  replaceSpans_append_of_isFreeBefore h

theorem removeSpans_append_of_isWholeSpan (h : IsWholeSpan spanLength text) (rest : List Char) :
    removeSpans spanLength (text ++ rest) = removeSpans spanLength rest :=
  replaceSpans_append_of_isWholeSpan h rest

theorem removeSpans_of_isFreeBefore (h : IsFreeBefore spanLength text []) :
    removeSpans spanLength text = text := by
  simpa using removeSpans_append_of_isFreeBefore h

/-- A text made of spans and of pieces without spans loses the former and keeps the latter. -/
theorem removeSpans_flatMap {Piece : Type} {write : Piece → List Char} {isSpan : Piece → Bool}
    {pieces : List Piece}
    (hspan : ∀ piece ∈ pieces, isSpan piece = true → IsWholeSpan spanLength (write piece))
    (hfree : ∀ piece ∈ pieces, isSpan piece = false → IsFree spanLength (write piece)) :
    removeSpans spanLength (pieces.flatMap write)
      = (pieces.filter fun piece => !isSpan piece).flatMap write := by
  induction pieces with
  | nil => rfl
  | cons piece pieces ih =>
    rw [List.forall_mem_cons] at hspan hfree
    rw [List.flatMap_cons]
    cases hkind : isSpan piece with
    | true =>
      rw [removeSpans_append_of_isWholeSpan (hspan.1 hkind), ih hspan.2 hfree.2,
        List.filter_cons_of_neg (by simp [hkind])]
    | false =>
      rw [removeSpans_append_of_isFreeBefore (hfree.1 hkind _), ih hspan.2 hfree.2,
        List.filter_cons_of_pos (by simp [hkind]), List.flatMap_cons]

end Replace

section Find

theorem findSpansFrom_eq_drop (skipped : Nat) (text : List Char) :
    findSpansFrom spanLength skipped text = findSpans spanLength (text.drop skipped) := by
  induction text generalizing skipped with
  | nil => cases skipped <;> rfl
  | cons c text ih =>
    cases skipped with
    | zero => rfl
    | succ skipped => exact ih skipped

theorem findSpans_of_no_span {c : Char} (h : spanLength (c :: rest) = 0) :
    findSpans spanLength (c :: rest) = findSpans spanLength rest := by
  simp [findSpans, findSpansFrom, h]

/-- A span at the start of a text is found, and the search goes on behind it. -/
theorem findSpans_of_span (h : 0 < spanLength text) (hne : text ≠ []) :
    findSpans spanLength text
      = text.take (spanLength text) :: findSpans spanLength (text.drop (spanLength text)) := by
  obtain ⟨c, rest, rfl⟩ := List.exists_cons_of_ne_nil hne
  obtain ⟨more, hmore⟩ := Nat.exists_eq_succ_of_ne_zero (Nat.ne_of_gt h)
  rw [hmore, List.drop_succ_cons, ← findSpansFrom_eq_drop]
  simp only [findSpans, findSpansFrom, hmore]

theorem findSpans_append_of_isFreeBefore (h : IsFreeBefore spanLength text rest) :
    findSpans spanLength (text ++ rest) = findSpans spanLength rest := by
  induction text with
  | nil => rfl
  | cons c text ih =>
    rw [isFreeBefore_cons] at h
    rw [List.cons_append, findSpans_of_no_span h.1, ih h.2]

theorem findSpans_append_of_isWholeSpan (h : IsWholeSpan spanLength text) (rest : List Char) :
    findSpans spanLength (text ++ rest) = text :: findSpans spanLength rest := by
  rw [findSpans_of_span (h.pos rest) (List.append_ne_nil_of_left_ne_nil h.ne_nil rest), h.length_eq,
    List.take_left, List.drop_left]

/-- In a text made of pieces, what is read off the spans is found piece by piece. -/
theorem filterMap_findSpans_flatMap {Piece Value : Type} {write : Piece → List Char}
    {read : List Char → Option Value} {value : Piece → Option Value} {pieces : List Piece}
    (h : ∀ piece ∈ pieces, ∀ rest, (findSpans spanLength (write piece ++ rest)).filterMap read
      = (value piece).toList ++ (findSpans spanLength rest).filterMap read) :
    (findSpans spanLength (pieces.flatMap write)).filterMap read = pieces.filterMap value := by
  induction pieces with
  | nil => rfl
  | cons piece pieces ih =>
    rw [List.forall_mem_cons] at h
    rw [List.flatMap_cons, h.1, ih h.2]
    cases hvalue : value piece <;> simp [hvalue]

/-- Up to the end of the first span there is at least the text in which none starts. -/
theorem lengthUntil_append_of_isFreeBefore (h : IsFreeBefore spanLength text rest) :
    lengthUntil spanLength (text ++ rest) = (lengthUntil spanLength rest).map (text.length + ·) := by
  induction text with
  | nil => simp
  | cons c text ih =>
    rw [isFreeBefore_cons] at h
    simp only [List.cons_append, lengthUntil, h.1, ih h.2, Option.map_map, List.length_cons]
    congr 1
    funext length
    simp only [Function.comp_apply]
    omega

theorem IsWholeSpan.lengthUntil_append (h : IsWholeSpan spanLength text) (rest : List Char) :
    lengthUntil spanLength (text ++ rest) = some text.length := by
  have hlength := h.length_eq rest
  obtain ⟨c, text, rfl⟩ := List.exists_cons_of_ne_nil h.ne_nil
  simp only [List.cons_append, List.length_cons] at hlength ⊢
  simp only [lengthUntil, hlength]

/-- A span ends behind any text exactly if one starts somewhere. -/
theorem lengthUntil_isSome_iff :
    (lengthUntil spanLength text).isSome = true ↔
      ∃ before rest, text = before ++ rest ∧ rest ≠ [] ∧ spanLength rest ≠ 0 := by
  induction text with
  | nil =>
    constructor
    · intro h
      cases h
    · rintro ⟨before, rest, heq, hne, -⟩
      exact absurd (List.append_eq_nil_iff.mp heq.symm).2 hne
  | cons c text ih =>
    rw [lengthUntil]
    split
    · rename_i hzero
      rw [Option.isSome_map, ih]
      constructor
      · rintro ⟨before, rest, rfl, hspan⟩
        exact ⟨c :: before, rest, rfl, hspan⟩
      · rintro ⟨before, rest, heq, hspan⟩
        rcases List.cons_eq_append_iff.mp heq with ⟨-, rfl⟩ | ⟨before, -, rfl⟩
        · exact absurd hzero hspan.2
        · exact ⟨before, rest, rfl, hspan⟩
    · rename_i more hmore
      refine iff_of_true rfl ⟨[], c :: text, rfl, List.cons_ne_nil c text, ?_⟩
      rw [hmore]
      exact Nat.succ_ne_zero more

end Find

/-! ## Cutting out the leftmost spans -/

/-- A span function finds exactly the texts of a given form. -/
structure Measures (spanLength : List Char → Nat) (form : List Char → Prop) : Prop where
  isWholeSpan : ∀ span, form span → IsWholeSpan spanLength span
  exists_prefix : ∀ text, spanLength text ≠ 0 → ∃ span, span <+: text ∧ form span

/-- A text, and what is left of it when the texts of a given form are cut out from left to right: as
long as there is one, the leftmost goes, and the search goes on behind it. -/
inductive LeftmostCut (form : List Char → Prop) : List Char → List Char → Prop
  | done {text : List Char} (hnone : ∀ span, form span → ¬ span <:+: text) :
      LeftmostCut form text text
  | cut {before span rest left : List Char} (hspan : form span)
      (hleftmost : ∀ lead other after, form other → lead ++ other ++ after = before ++ span ++ rest →
        before.length ≤ lead.length)
      (hrest : LeftmostCut form rest left) :
      LeftmostCut form (before ++ span ++ rest) (before ++ left)

section Cut

variable {form : List Char → Prop} {left : List Char}

theorem Measures.eq_zero_iff (h : Measures spanLength form) :
    spanLength text = 0 ↔ ∀ span, form span → ¬ span <+: text := by
  constructor
  · rintro hzero span hspan ⟨rest, rfl⟩
    have hwhole := h.isWholeSpan span hspan
    rw [hwhole.length_eq, List.length_eq_zero_iff] at hzero
    exact hwhole.ne_nil hzero
  · intro hnone
    refine Decidable.byContradiction fun hne => ?_
    obtain ⟨span, hbegins, hspan⟩ := h.exists_prefix text hne
    exact hnone span hspan hbegins

/-- No span starts inside a text exactly if all spans of what it begins stand behind it. -/
theorem Measures.isFreeBefore_iff (h : Measures spanLength form) :
    IsFreeBefore spanLength text rest ↔
      ∀ lead span after, form span → lead ++ span ++ after = text ++ rest →
        text.length ≤ lead.length := by
  constructor
  · intro hfree lead span after hspan heq
    refine Nat.le_of_not_lt fun hlt => ?_
    have hlead : lead <+: text :=
      List.prefix_of_prefix_length_le ⟨span ++ after, by rw [← heq, List.append_assoc]⟩
        (List.prefix_append text rest) (Nat.le_of_lt hlt)
    obtain ⟨tail, rfl⟩ := hlead
    have htail : tail ≠ [] := by
      rintro rfl
      simp at hlt
    rw [List.append_assoc, List.append_assoc, List.append_cancel_left_eq] at heq
    exact h.eq_zero_iff.mp (hfree tail (List.suffix_append lead tail) htail) span hspan ⟨after, heq⟩
  · rintro hbehind tail ⟨lead, rfl⟩ htail
    refine h.eq_zero_iff.mpr ?_
    rintro span hspan ⟨after, heq⟩
    have hle := hbehind lead span after hspan (by rw [List.append_assoc, heq, List.append_assoc])
    rw [List.length_append] at hle
    exact htail (List.length_eq_zero_iff.mp (by omega))

theorem Measures.isFreeBefore_nil_iff (h : Measures spanLength form) :
    IsFreeBefore spanLength text [] ↔ ∀ span, form span → ¬ span <:+: text := by
  rw [h.isFreeBefore_iff]
  constructor
  · rintro hbehind span hspan ⟨lead, after, heq⟩
    have hle := hbehind lead span after hspan (by rw [heq, List.append_nil])
    have hpos := List.length_pos_iff.mpr (h.isWholeSpan span hspan).ne_nil
    rw [← heq, List.length_append, List.length_append] at hle
    omega
  · intro hnone lead span after hspan heq
    exact absurd ⟨lead, after, by rw [heq, List.append_nil]⟩ (hnone span hspan)

/-- A character at which no span starts stays. -/
theorem LeftmostCut.cons {c : Char} (hnone : ∀ span, form span → ¬ span <+: c :: text)
    (h : LeftmostCut form text left) : LeftmostCut form (c :: text) (c :: left) := by
  cases h with
  | done hlater =>
    refine .done fun span hspan hinfix => ?_
    rcases List.infix_cons_iff.mp hinfix with hbegins | hinfix
    · exact hnone span hspan hbegins
    · exact hlater span hspan hinfix
  | @cut before span rest left hspan hleftmost hrest =>
    -- the leftmost span is still the same one, one character further on
    have hcut : LeftmostCut form (c :: before ++ span ++ rest) (c :: before ++ left) := by
      refine .cut hspan ?_ hrest
      intro lead other after hother heq
      cases lead with
      | nil => exact absurd ⟨after, heq⟩ (hnone other hother)
      | cons d lead =>
        rw [List.cons_append, List.cons_append] at heq
        exact Nat.succ_le_succ (hleftmost lead other after hother (List.cons.inj heq).2)
    exact hcut

theorem Measures.leftmostCut_removeSpans (h : Measures spanLength form) (text : List Char) :
    LeftmostCut form text (removeSpans spanLength text) := by
  -- not on the text itself: the search goes on behind a whole span
  induction hlength : text.length using Nat.strongRecOn generalizing text with
  | ind length ih =>
    cases text with
    | nil =>
      refine .done fun span hspan hinfix => ?_
      exact (h.isWholeSpan span hspan).ne_nil (List.infix_nil.mp hinfix)
    | cons c text =>
      by_cases hzero : spanLength (c :: text) = 0
      · have hcut := (ih text.length (by simp [← hlength]) text rfl).cons (h.eq_zero_iff.mp hzero)
        rwa [removeSpans, replaceSpans_of_no_span hzero]
      · obtain ⟨span, ⟨rest, heq⟩, hspan⟩ := h.exists_prefix (c :: text) hzero
        have hwhole := h.isWholeSpan span hspan
        have hlt : rest.length < length := by
          rw [← hlength, ← heq, List.length_append]
          exact Nat.lt_add_of_pos_left (List.length_pos_iff.mpr hwhole.ne_nil)
        rw [← heq, removeSpans_append_of_isWholeSpan hwhole]
        exact @LeftmostCut.cut form [] span rest _ hspan (fun _ _ _ _ _ => Nat.zero_le _)
          (ih rest.length hlt rest rfl)

/-- **Deleting spans is cutting out the leftmost ones**, and nothing else is. -/
theorem Measures.leftmostCut_iff (h : Measures spanLength form) :
    LeftmostCut form text left ↔ left = removeSpans spanLength text := by
  constructor
  · intro hcut
    induction hcut with
    | done hnone => exact (removeSpans_of_isFreeBefore (h.isFreeBefore_nil_iff.mpr hnone)).symm
    | @cut before span rest left hspan hleftmost hrest ih =>
      rw [List.append_assoc] at hleftmost ⊢
      rw [removeSpans_append_of_isFreeBefore (h.isFreeBefore_iff.mpr hleftmost),
        removeSpans_append_of_isWholeSpan (h.isWholeSpan span hspan), ih]
  · rintro rfl
    exact h.leftmostCut_removeSpans text

end Cut

end Concordance.Markup
