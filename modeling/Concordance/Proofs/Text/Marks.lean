import Concordance.Text.Normal.Form
import Mathlib.Data.List.DropRight

/-!
# Runs of combining marks

Bringing a text into canonical form moves marks, but only within their run: a character of class zero stays
where it is, and no mark moves past it. In a run the marks are sorted by their class and otherwise keep their
order, so that it does not matter whether some of them are taken out before or after.

## Main definitions

* `isCombining`: whether a character has a combining class other than zero
* `arrange`: a decomposed text with its marks in order

## Main results

* `insertMark_append_of_starter`: no mark moves past a character of class zero
* `arrange_append`: a text is arranged part by part where it is cut at such a character
* `filter_arrange`: taking marks out of a run, before or after it is arranged
* `arrange_append_eq_iff`: when two runs that meet stay apart
-/

namespace Concordance.Text

/-- Whether a character combines with the one before it, as its class says. -/
def isCombining (c : Char) : Bool :=
  combiningClass c != 0

theorem isCombining_iff {c : Char} : isCombining c = true ↔ combiningClass c ≠ 0 :=
  bne_iff_ne

theorem isCombining_eq_false_iff {c : Char} : isCombining c = false ↔ combiningClass c = 0 := by
  rw [← Bool.not_eq_true, isCombining_iff, Decidable.not_not]

/-- A decomposed text with its marks in order. -/
def arrange (parts : List Char) : List Char :=
  parts.foldr insertMark []

variable {mark starter : Char} {text rest parts more : List Char}

@[simp] theorem arrange_nil : arrange [] = [] := rfl

@[simp] theorem arrange_cons : arrange (mark :: parts) = insertMark mark (arrange parts) := rfl

theorem canonicalForm_eq_arrange (text : List Char) :
    canonicalForm text = arrange (text.flatMap decompose) := rfl

theorem perm_arrange (parts : List Char) : (arrange parts).Perm parts := by
  induction parts with
  | nil => exact .refl _
  | cons c parts ih => exact (perm_insertMark c _).trans (ih.cons c)

/-! ## Starters -/

theorem insertMark_of_starter (h : combiningClass starter = 0) (rest : List Char) :
    insertMark starter rest = starter :: rest := by
  cases rest <;> simp [insertMark, h]

/-- No mark moves past a character of class zero. -/
theorem insertMark_append_of_starter (h : combiningClass starter = 0) (mark : Char)
    (text rest : List Char) :
    insertMark mark (text ++ starter :: rest) = insertMark mark text ++ starter :: rest := by
  induction text with
  | nil => simp [insertMark, h]
  | cons d text ih =>
    rw [List.cons_append, insertMark, insertMark, ih]
    split <;> rfl

theorem arrange_append_of_starter (h : combiningClass starter = 0) (parts more : List Char) :
    arrange (parts ++ starter :: more) = arrange parts ++ starter :: arrange more := by
  induction parts with
  | nil => exact insertMark_of_starter h _
  | cons c parts ih =>
    rw [List.cons_append, arrange_cons, arrange_cons, ih, insertMark_append_of_starter h]

/-- A text is arranged part by part where a part starts with a character of class zero. -/
theorem arrange_append (h : ∀ c ∈ more.head?, combiningClass c = 0) (parts : List Char) :
    arrange (parts ++ more) = arrange parts ++ arrange more := by
  cases more with
  | nil => simp
  | cons starter more =>
    have hstarter := h starter rfl
    rw [arrange_append_of_starter hstarter, arrange_cons, insertMark_of_starter hstarter]

/-- A text is arranged part by part where a part ends with a character of class zero. -/
theorem arrange_append_of_getLast? (h : ∀ c ∈ parts.getLast?, combiningClass c = 0)
    (more : List Char) : arrange (parts ++ more) = arrange parts ++ arrange more := by
  rcases parts.eq_nil_or_concat with rfl | ⟨parts, starter, rfl⟩
  · rfl
  · have hstarter := h starter (by simp)
    rw [List.concat_eq_append, List.append_assoc, List.singleton_append,
      arrange_append_of_starter hstarter, arrange_append_of_starter hstarter, arrange_nil,
      List.append_assoc, List.singleton_append]

/-! ## Runs -/

/-- The class of a mark that stands before another one is not greater. -/
def IsOrdered (marks : List Char) : Prop :=
  marks.Pairwise fun c d => combiningClass c ≤ combiningClass d

/-- What has no smaller class than a mark does not let it pass. -/
theorem insertMark_append_of_le (h : ∀ d ∈ rest, combiningClass mark ≤ combiningClass d)
    (text : List Char) : insertMark mark (text ++ rest) = insertMark mark text ++ rest := by
  induction text with
  | nil =>
    cases rest with
    | nil => rfl
    | cons d rest =>
      have hstop : ¬(combiningClass d ≠ 0 ∧ combiningClass d < combiningClass mark) :=
        fun hpass => Nat.not_le.mpr hpass.2 (h d List.mem_cons_self)
      simp [insertMark, hstop]
  | cons c text ih =>
    rw [List.cons_append, insertMark, insertMark, ih]
    split <;> rfl

theorem insertMark_of_le (h : ∀ d ∈ rest, combiningClass mark ≤ combiningClass d) :
    insertMark mark rest = mark :: rest :=
  insertMark_append_of_le h []

theorem IsOrdered.insertMark (h : IsOrdered text) (htext : ∀ c ∈ text, combiningClass c ≠ 0)
    (mark : Char) : IsOrdered (insertMark mark text) := by
  induction text with
  | nil => exact List.pairwise_singleton _ _
  | cons d text ih =>
    rw [List.forall_mem_cons] at htext
    rw [IsOrdered, List.pairwise_cons] at h
    rw [Text.insertMark]
    split
    · next hpass =>
      refine List.pairwise_cons.mpr ⟨fun c hc => ?_, ih h.2 htext.2⟩
      rcases List.mem_cons.mp ((perm_insertMark mark text).mem_iff.mp hc) with rfl | hc
      · exact Nat.le_of_lt hpass.2
      · exact h.1 c hc
    · next hstop =>
      have hle : combiningClass mark ≤ combiningClass d := by
        have hd := htext.1
        omega
      refine List.pairwise_cons.mpr ⟨fun c hc => ?_, List.pairwise_cons.mpr h⟩
      rcases List.mem_cons.mp hc with rfl | hc
      · exact hle
      · exact Nat.le_trans hle (h.1 c hc)

theorem combiningClass_ne_of_mem_arrange (h : ∀ c ∈ parts, combiningClass c ≠ 0) :
    ∀ c ∈ arrange parts, combiningClass c ≠ 0 :=
  fun c hc => h c ((perm_arrange parts).mem_iff.mp hc)

/-- A run is arranged by the classes of its marks. -/
theorem isOrdered_arrange (h : ∀ c ∈ parts, combiningClass c ≠ 0) : IsOrdered (arrange parts) := by
  induction parts with
  | nil => exact List.Pairwise.nil
  | cons mark parts ih =>
    rw [List.forall_mem_cons] at h
    exact (ih h.2).insertMark (combiningClass_ne_of_mem_arrange h.2) mark

section Filter

variable {p : Char → Bool}

/-- A mark that is taken out leaves nothing, wherever it stands. -/
theorem filter_insertMark_of_neg (h : p mark = false) (text : List Char) :
    (insertMark mark text).filter p = text.filter p := by
  induction text with
  | nil => simp [insertMark, h]
  | cons d text ih =>
    rw [insertMark]
    split
    · rw [List.filter_cons, List.filter_cons, ih]
    · rw [List.filter_cons_of_neg (by simp [h])]

/-- A mark that stays has its place among the marks that stay. -/
theorem IsOrdered.filter_insertMark (h : IsOrdered text) (htext : ∀ c ∈ text, combiningClass c ≠ 0)
    (hmark : p mark = true) :
    (Text.insertMark mark text).filter p = Text.insertMark mark (text.filter p) := by
  induction text with
  | nil => simp [Text.insertMark, hmark]
  | cons d text ih =>
    rw [List.forall_mem_cons] at htext
    rw [IsOrdered, List.pairwise_cons] at h
    have hrest := ih h.2 htext.2
    rw [Text.insertMark]
    split
    · next hpass =>
      by_cases hd : p d = true
      · rw [List.filter_cons_of_pos hd, List.filter_cons_of_pos hd, hrest, Text.insertMark, if_pos hpass]
      · rw [List.filter_cons_of_neg hd, List.filter_cons_of_neg hd, hrest]
    · next hstop =>
      -- all that follows has no smaller class, whether it is taken out or not
      have hle : ∀ c ∈ (d :: text).filter p, combiningClass mark ≤ combiningClass c := by
        intro c hc
        have hd := htext.1
        rcases List.mem_cons.mp (List.mem_filter.mp hc).1 with rfl | hc
        · omega
        · exact Nat.le_trans (by omega) (h.1 c hc)
      rw [List.filter_cons_of_pos hmark, insertMark_of_le hle]

/-- Marks may be taken out of a run before or after it is arranged. -/
theorem filter_arrange (h : ∀ c ∈ parts, combiningClass c ≠ 0) :
    (arrange parts).filter p = arrange (parts.filter p) := by
  induction parts with
  | nil => rfl
  | cons mark parts ih =>
    rw [List.forall_mem_cons] at h
    by_cases hmark : p mark = true
    · rw [arrange_cons, (isOrdered_arrange h.2).filter_insertMark (combiningClass_ne_of_mem_arrange h.2)
        hmark, ih h.2, List.filter_cons_of_pos hmark, arrange_cons]
    · rw [arrange_cons, filter_insertMark_of_neg (by simpa using hmark), ih h.2,
        List.filter_cons_of_neg hmark]

/-- What is taken out at the start of a text leaves nothing, be it marks or not. -/
theorem filter_arrange_append_of_forall_neg (h : ∀ c ∈ parts, p c = false) (more : List Char) :
    (arrange (parts ++ more)).filter p = (arrange more).filter p := by
  induction parts with
  | nil => rfl
  | cons mark parts ih =>
    rw [List.forall_mem_cons] at h
    rw [List.cons_append, arrange_cons, filter_insertMark_of_neg h.1, ih h.2]

end Filter

/-- Two runs that meet stay apart if no mark of the first has a greater class than one of the second. -/
theorem arrange_append_of_le (h : ∀ c ∈ parts, ∀ d ∈ more, combiningClass c ≤ combiningClass d) :
    arrange (parts ++ more) = arrange parts ++ arrange more := by
  induction parts with
  | nil => rfl
  | cons mark parts ih =>
    rw [List.forall_mem_cons] at h
    have hle : ∀ d ∈ arrange more, combiningClass mark ≤ combiningClass d :=
      fun d hd => h.1 d ((perm_arrange more).mem_iff.mp hd)
    rw [List.cons_append, arrange_cons, arrange_cons, ih h.2, insertMark_append_of_le hle]

/-- **Two runs that meet stay apart** exactly if no mark of the first has a greater class than one of the
second. -/
theorem arrange_append_eq_iff (hparts : ∀ c ∈ parts, combiningClass c ≠ 0)
    (hmore : ∀ c ∈ more, combiningClass c ≠ 0) :
    arrange (parts ++ more) = arrange parts ++ arrange more ↔
      ∀ c ∈ parts, ∀ d ∈ more, combiningClass c ≤ combiningClass d := by
  refine ⟨fun heq c hc d hd => ?_, arrange_append_of_le⟩
  have hordered : IsOrdered (arrange (parts ++ more)) :=
    isOrdered_arrange (List.forall_mem_append.mpr ⟨hparts, hmore⟩)
  rw [heq, IsOrdered, List.pairwise_append] at hordered
  exact hordered.2.2 c ((perm_arrange parts).mem_iff.mpr hc) d ((perm_arrange more).mem_iff.mpr hd)

/-! ## The runs at the ends of a text -/

/-- The marks at the start of a decomposed text. -/
def firstRun (parts : List Char) : List Char :=
  parts.takeWhile isCombining

/-- The marks at the end of a decomposed text. -/
def lastRun (parts : List Char) : List Char :=
  parts.rtakeWhile isCombining

theorem combiningClass_ne_of_mem_firstRun (parts : List Char) :
    ∀ c ∈ firstRun parts, combiningClass c ≠ 0 :=
  fun _ hc => isCombining_iff.mp (List.mem_takeWhile_imp hc)

theorem combiningClass_ne_of_mem_lastRun (parts : List Char) :
    ∀ c ∈ lastRun parts, combiningClass c ≠ 0 :=
  fun _ hc => isCombining_iff.mp (List.mem_rtakeWhile_imp hc)

/-- What a text has behind the marks that it starts with starts with a character of class zero. -/
theorem exists_eq_firstRun_append (parts : List Char) :
    ∃ more, parts = firstRun parts ++ more ∧ ∀ c ∈ more.head?, combiningClass c = 0 := by
  refine ⟨parts.dropWhile isCombining, (List.takeWhile_append_dropWhile).symm, fun c hc => ?_⟩
  have hhead := List.head?_dropWhile_not isCombining parts
  rw [Option.mem_def.mp hc] at hhead
  exact isCombining_eq_false_iff.mp (by simpa using hhead)

/-- What a text has before the marks that it ends with ends with a character of class zero. -/
theorem exists_eq_append_lastRun (parts : List Char) :
    ∃ before, parts = before ++ lastRun parts ∧ ∀ c ∈ before.getLast?, combiningClass c = 0 := by
  refine ⟨parts.rdropWhile isCombining, List.rdropWhile_append_rtakeWhile.symm, fun c hc => ?_⟩
  have hne : parts.rdropWhile isCombining ≠ [] := by
    rintro hnil
    simp [hnil] at hc
  have hlast := List.rdropWhile_last_not isCombining parts hne
  rw [List.getLast?_eq_some_getLast hne, Option.mem_some_iff] at hc
  rw [hc] at hlast
  exact isCombining_eq_false_iff.mp (Bool.eq_false_iff.mpr hlast)

end Concordance.Text
