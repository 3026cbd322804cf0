import Concordance.Proofs.Text.Marks
import Concordance.Query.Canonical

/-!
# Characters that cleaning drops

Cleaning keeps letters and white space. A character of which it keeps nothing may be put into a text without
a trace, but for one thing: it is there while the text is brought into canonical form. A character of class
zero then keeps the marks on its two sides apart, and some marks are letters. If such marks would change
places without the character, they do not with it, and the cleaned texts differ. In every other case they are
the same.

## Main definitions

* `IsDropped`: a character of which cleaning keeps nothing
* `KeepsApart`: a character keeps letters apart that would change places
* `Interspersed`: a text, and the same text with dropped characters put in

## Main results

* `filter_canonicalForm_insert`, `filter_canonicalForm_append`: what cleaning keeps, with such a character
  and without it
* `cleanChars_insert_iff`: when a dropped character leaves no trace
* `Interspersed.cleanChars_eq`: any number of dropped characters
* `dropped_without_trace`: the same of the words, the terms and the canonical query of a text
-/

namespace Concordance.Text

variable {x y : List Char} {c : Char}

/-- Cleaning keeps no part of a character. -/
def IsDropped (c : Char) : Prop :=
  ∀ d ∈ decompose c, isKept d = false

instance : DecidablePred IsDropped := fun c =>
  decidable_of_iff (((decompose c).all fun d => !isKept d) = true) (by simp [IsDropped])

/-- The letters among the marks that a text ends with. -/
def lastMarks (text : List Char) : List Char :=
  (lastRun (text.flatMap decompose)).filter isKept

/-- The letters among the marks that a text starts with. -/
def firstMarks (text : List Char) : List Char :=
  (firstRun (text.flatMap decompose)).filter isKept

/-- A character between two texts keeps letters apart that would change places if the texts met: a part of it
has class zero, and of the marks that are letters one before it has a greater class than one behind it. -/
def KeepsApart (x : List Char) (c : Char) (y : List Char) : Prop :=
  (∃ d ∈ decompose c, combiningClass d = 0) ∧
    ∃ m ∈ lastMarks x, ∃ n ∈ firstMarks y, combiningClass n < combiningClass m

instance (x : List Char) (c : Char) (y : List Char) : Decidable (KeepsApart x c y) :=
  decidable_of_iff (((decompose c).any fun d => combiningClass d = 0) = true ∧
    ((lastMarks x).any fun m => (firstMarks y).any fun n => combiningClass n < combiningClass m) = true)
    (by simp [KeepsApart])

theorem combiningClass_ne_of_mem_lastMarks : ∀ m ∈ lastMarks x, combiningClass m ≠ 0 :=
  fun _ hm => combiningClass_ne_of_mem_lastRun _ _ (List.mem_filter.mp hm).1

theorem combiningClass_ne_of_mem_firstMarks : ∀ n ∈ firstMarks y, combiningClass n ≠ 0 :=
  fun _ hn => combiningClass_ne_of_mem_firstRun _ _ (List.mem_filter.mp hn).1

/-! ## What is kept of the canonical form -/

section Kept

theorem IsDropped.filter_decompose (hc : IsDropped c) : (decompose c).filter isKept = [] :=
  List.filter_eq_nil_iff.mpr fun d hd => Bool.eq_false_iff.mp (hc d hd)

/-- Marks that follow a text go to the marks that it ends with, and nothing before these changes. -/
theorem exists_filter_arrange_append (parts : List Char) : ∃ before : List Char,
    ∀ marks rest, (∀ c ∈ marks, combiningClass c ≠ 0) → (∀ c ∈ rest.head?, combiningClass c = 0) →
      (arrange (parts ++ (marks ++ rest))).filter isKept =
        before ++ arrange ((lastRun parts).filter isKept ++ marks.filter isKept) ++
          (arrange rest).filter isKept := by
  obtain ⟨lead, hparts, hlead⟩ := exists_eq_append_lastRun parts
  refine ⟨(arrange lead).filter isKept, fun marks rest hmarks hrest => ?_⟩
  have hrun : ∀ c ∈ lastRun parts ++ marks, combiningClass c ≠ 0 :=
    List.forall_mem_append.mpr ⟨combiningClass_ne_of_mem_lastRun _, hmarks⟩
  have hsplit : parts ++ (marks ++ rest) = lead ++ (lastRun parts ++ marks ++ rest) := by
    conv_lhs => rw [hparts]
    simp only [List.append_assoc]
  rw [hsplit, arrange_append_of_getLast? hlead, arrange_append hrest, List.filter_append,
    List.filter_append, filter_arrange hrun, List.filter_append, List.append_assoc]

/-- **What cleaning keeps**, where two texts meet and where a dropped character stands between them. Only
the marks that are letters make a difference: without the character, or with one that is a mark itself, they
are arranged together, and else they are arranged on each side. -/
theorem exists_filter_canonicalForm (hc : IsDropped c) (x y : List Char) : ∃ before after : List Char,
    (canonicalForm (x ++ y)).filter isKept =
      before ++ arrange (lastMarks x ++ firstMarks y) ++ after ∧
    ((∃ d ∈ decompose c, combiningClass d = 0) → (canonicalForm (x ++ c :: y)).filter isKept =
      before ++ (arrange (lastMarks x) ++ arrange (firstMarks y)) ++ after) ∧
    ((¬ ∃ d ∈ decompose c, combiningClass d = 0) → (canonicalForm (x ++ c :: y)).filter isKept =
      before ++ arrange (lastMarks x ++ firstMarks y) ++ after) := by
  obtain ⟨before, hbefore⟩ := exists_filter_arrange_append (x.flatMap decompose)
  obtain ⟨rest, hy, hrest⟩ := exists_eq_firstRun_append (y.flatMap decompose)
  have hfirst := combiningClass_ne_of_mem_firstRun (y.flatMap decompose)
  refine ⟨before, (arrange rest).filter isKept, ?_, fun hstarter => ?_, fun hstarter => ?_⟩
  · rw [canonicalForm_eq_arrange, List.flatMap_append, hy, hbefore _ _ hfirst hrest]
    rfl
  · -- up to its first part of class zero the character goes with the text before it
    obtain ⟨more, hparts, hmore⟩ := exists_eq_firstRun_append (decompose c)
    have hmarks := combiningClass_ne_of_mem_firstRun (decompose c)
    have hdropped : ∀ d ∈ firstRun (decompose c) ++ more, isKept d = false := hparts ▸ hc
    rw [List.forall_mem_append] at hdropped
    have hhead : ∀ d ∈ (more ++ y.flatMap decompose).head?, combiningClass d = 0 := by
      obtain ⟨d, hd, hzero⟩ := hstarter
      cases more with
      | nil =>
        rw [List.append_nil] at hparts
        exact absurd hzero (hmarks d (hparts ▸ hd))
      | cons e more => exact hmore
    rw [canonicalForm_eq_arrange, List.flatMap_append, List.flatMap_cons, hparts, List.append_assoc,
      hbefore _ _ hmarks hhead, filter_arrange_append_of_forall_neg hdropped.2,
      List.filter_eq_nil_iff.mpr fun d hd => Bool.eq_false_iff.mp (hdropped.1 d hd)]
    conv_lhs => rw [hy]
    rw [arrange_append hrest, List.filter_append, filter_arrange hfirst, List.append_nil]
    simp only [List.append_assoc]
    rfl
  · -- the character has marks only, which leave nothing in their run
    have hmarks : ∀ d ∈ decompose c ++ firstRun (y.flatMap decompose), combiningClass d ≠ 0 :=
      List.forall_mem_append.mpr ⟨fun d hd hzero => hstarter ⟨d, hd, hzero⟩, hfirst⟩
    rw [canonicalForm_eq_arrange, List.flatMap_append, List.flatMap_cons, hy,
      ← List.append_assoc (decompose c), hbefore _ _ hmarks hrest, List.filter_append,
      hc.filter_decompose, List.nil_append]
    rfl

end Kept

/-! ## Lowering -/

section Lowering

theorem exists_run_of_lookupClass_ne_zero {runs : List CombiningRun} {n : Nat}
    (h : lookupClass runs n ≠ 0) : ∃ run ∈ runs, run.first ≤ n ∧ n ≤ run.last := by
  induction runs with
  | nil => exact absurd rfl h
  | cons run runs ih =>
    rw [lookupClass] at h
    split at h
    · exact absurd rfl h
    · next hfirst =>
      split at h
      · next hlast => exact ⟨run, List.mem_cons_self, Nat.le_of_not_lt hfirst, hlast⟩
      · obtain ⟨other, hother, hin⟩ := ih h
        exact ⟨other, List.mem_cons_of_mem run hother, hin⟩

/-- Whether no code point from `first` to `last` is in a run of capital letters. -/
def hasNoCapital : List LowerRun → Nat → Nat → Bool
  | [], _, _ => true
  | run :: rest, first, last =>
    bif Nat.blt last run.first then true else Nat.blt run.last first && hasNoCapital rest first last

theorem lowerCodePoint_of_hasNoCapital {runs : List LowerRun} {first last n : Nat}
    (h : hasNoCapital runs first last = true) (hfirst : first ≤ n) (hlast : n ≤ last) :
    lowerCodePoint runs n = n := by
  induction runs with
  | nil => rfl
  | cons run runs ih =>
    simp only [hasNoCapital, cond_eq_ite, Nat.blt_eq, Bool.if_true_left, Bool.or_eq_true,
      decide_eq_true_eq, Bool.and_eq_true] at h
    rw [lowerCodePoint]
    rcases h with hbefore | ⟨hbehind, hrest⟩
    · rw [if_pos (by omega)]
    · have hout : ¬(n ≤ run.last ∧ (n - run.first) % run.stride = 0) := by omega
      rw [ih hrest, if_neg hout, ite_self]

/-- No mark has a lowercase of its own: the runs of marks have no capital letters. -/
theorem lowerChar_of_combining {mark : Char} (h : combiningClass mark ≠ 0) :
    mark ≠ 'Σ' ∧ lowerChar mark = [mark] := by
  have hruns : (combiningRuns.all fun run =>
      Nat.blt 0x130 run.first && hasNoCapital lowerRuns run.first run.last) = true := by
    decide +kernel
  obtain ⟨run, hrun, hfirst, hlast⟩ := exists_run_of_lookupClass_ne_zero h
  have hclear := List.all_eq_true.mp hruns run hrun
  rw [Bool.and_eq_true, Nat.blt_eq] at hclear
  have hsame := lowerCodePoint_of_hasNoCapital hclear.2 hfirst hlast
  constructor
  · rintro rfl
    exact absurd hsame (by decide)
  · rw [lowerChar, if_neg (by omega), hsame, Char.ofNat_toNat]

/-- What stands before a part of a text has as many lowercase characters whatever the part is. -/
theorem exists_lowercaseAfter_append (before x : List Char) (y : List Char) :
    ∃ lowered : List Char, lowered.length = (x.flatMap lowerChar).length ∧
      lowercaseAfter before (x ++ y) = lowered ++ lowercaseAfter (x.reverse ++ before) y := by
  induction x generalizing before with
  | nil => exact ⟨[], rfl, rfl⟩
  | cons d x ih =>
    obtain ⟨lowered, hlength, heq⟩ := ih (d :: before)
    refine ⟨(if d = 'Σ' then if nearestIsCased before ∧ ¬ nearestIsCased (x ++ y) then ['ς'] else ['σ']
      else lowerChar d) ++ lowered, ?_, ?_⟩
    · rw [List.length_append, hlength, List.flatMap_cons, List.length_append]
      congr 1
      split
      · next hsigma =>
        subst hsigma
        split <;> decide
      · rfl
    · rw [List.cons_append, lowercaseAfter, heq, List.append_assoc, List.reverse_cons,
        List.append_assoc, List.singleton_append]

theorem lowercaseAfter_append_of_combining {marks : List Char}
    (h : ∀ mark ∈ marks, combiningClass mark ≠ 0) (before rest : List Char) :
    lowercaseAfter before (marks ++ rest) = marks ++ lowercaseAfter (marks.reverse ++ before) rest := by
  induction marks generalizing before with
  | nil => rfl
  | cons mark marks ih =>
    rw [List.forall_mem_cons] at h
    obtain ⟨hsigma, hlower⟩ := lowerChar_of_combining h.1
    rw [List.cons_append, lowercaseAfter, if_neg hsigma, hlower, ih h.2, List.reverse_cons,
      List.append_assoc, List.singleton_append, List.singleton_append, List.cons_append]

/-- Texts that differ in some marks differ when they are lowered. -/
theorem lowercase_inj_of_combining {marks others : List Char}
    (hmarks : ∀ mark ∈ marks, combiningClass mark ≠ 0)
    (hothers : ∀ mark ∈ others, combiningClass mark ≠ 0) (hlength : marks.length = others.length)
    {x y : List Char} (h : lowercase (x ++ marks ++ y) = lowercase (x ++ others ++ y)) :
    marks = others := by
  rw [lowercase, lowercase, List.append_assoc, List.append_assoc] at h
  obtain ⟨lowered, hlowered, heq⟩ := exists_lowercaseAfter_append [] x (marks ++ y)
  obtain ⟨lowered', hlowered', heq'⟩ := exists_lowercaseAfter_append [] x (others ++ y)
  rw [heq, heq'] at h
  have hrest := (List.append_inj h (hlowered.trans hlowered'.symm)).2
  rw [lowercaseAfter_append_of_combining hmarks, lowercaseAfter_append_of_combining hothers] at hrest
  exact (List.append_inj hrest hlength).1

end Lowering

/-! ## Cleaning -/

theorem not_keepsApart_iff_of_starter (h : ∃ d ∈ decompose c, combiningClass d = 0) :
    ¬ KeepsApart x c y ↔ ∀ m ∈ lastMarks x, ∀ n ∈ firstMarks y, combiningClass m ≤ combiningClass n := by
  simp only [KeepsApart, h, true_and, not_exists, not_and, not_lt]

/-- **When a dropped character leaves no trace** in the cleaned text. -/
theorem cleanChars_insert_iff (hc : IsDropped c) (x y : List Char) :
    cleanChars (x ++ c :: y) = cleanChars (x ++ y) ↔ ¬ KeepsApart x c y := by
  obtain ⟨before, after, hmeet, hapart, hjoined⟩ := exists_filter_canonicalForm hc x y
  rw [cleanChars, cleanChars, hmeet]
  by_cases hstarter : ∃ d ∈ decompose c, combiningClass d = 0
  · rw [hapart hstarter]
    have hlast := combiningClass_ne_of_mem_lastMarks (x := x)
    have hfirst := combiningClass_ne_of_mem_firstMarks (y := y)
    rw [not_keepsApart_iff_of_starter hstarter, ← arrange_append_eq_iff hlast hfirst]
    constructor
    · intro heq
      have hperm : (arrange (lastMarks x) ++ arrange (firstMarks y)).Perm
          (arrange (lastMarks x ++ firstMarks y)) :=
        ((perm_arrange _).append (perm_arrange _)).trans (perm_arrange _).symm
      have hmarks : ∀ mark ∈ arrange (lastMarks x ++ firstMarks y), combiningClass mark ≠ 0 :=
        combiningClass_ne_of_mem_arrange (List.forall_mem_append.mpr ⟨hlast, hfirst⟩)
      exact (lowercase_inj_of_combining (fun mark hmark => hmarks mark (hperm.mem_iff.mp hmark)) hmarks
        hperm.length_eq heq).symm
    · intro heq
      rw [heq]
  · rw [hjoined hstarter]
    exact iff_of_true rfl fun hkeeps => hstarter hkeeps.1

/-- A text, and the same text with dropped characters put in, none of which keeps letters apart that would
change places. -/
inductive Interspersed (text : List Char) : List Char → Prop
  | refl : Interspersed text text
  | insert {x y : List Char} {c : Char} (h : Interspersed text (x ++ y)) (hc : IsDropped c)
    (hapart : ¬ KeepsApart x c y) : Interspersed text (x ++ c :: y)

theorem Interspersed.cleanChars_eq {text more : List Char} (h : Interspersed text more) :
    cleanChars more = cleanChars text := by
  induction h with
  | refl => rfl
  | @insert x y c _ hc hapart ih => rw [(cleanChars_insert_iff hc x y).mpr hapart, ih]

/-- **Dropped characters leave no trace**, other than where they keep letters apart that would change places.
A text with such a character in it is cleaned to the same as without it exactly if it does not, and a text
with any number of them put in has the same words, the same terms and the same canonical query. -/
theorem dropped_without_trace :
    (∀ (x y : String) (c : Char), IsDropped c →
      (clean (x ++ String.singleton c ++ y) = clean (x ++ y) ↔ ¬ KeepsApart x.toList c y.toList)) ∧
    ∀ text more : String, Interspersed text.toList more.toList →
      clean more = clean text ∧ words more = words text ∧ terms more = terms text ∧
        CanonicalQuery.ofLine more = CanonicalQuery.ofLine text := by
  constructor
  · intro x y c hc
    rw [clean, clean, String.ofList_inj, ← cleanChars_insert_iff hc]
    simp
  · intro text more h
    have hclean := h.cleanChars_eq
    have hwords : words more = words text := by
      rw [words, wordChars, hclean]
      rfl
    have hterms : terms more = terms text := by
      rw [terms, hwords]
      rfl
    refine ⟨?_, hwords, hterms, ?_⟩
    · rw [clean, hclean]
      rfl
    · rw [CanonicalQuery.ofLine, CanonicalQuery.ofLine, hterms]

/-- An accent between two marks that are letters, which change places all the same, and an apostrophe and a
digit in a word. -/
theorem dropped_without_trace_accent :
    let x := "α\u0345"
    let y := "\u05B0"
    IsDropped '\u0301' ∧ clean (x ++ String.singleton '\u0301' ++ y) = clean (x ++ y) ∧
      Interspersed "dont".toList "d1on't".toList ∧ words "d1on't" = words "dont" := by
  intro x y
  have haccent : IsDropped '\u0301' ∧ ¬ KeepsApart x.toList '\u0301' y.toList := by decide +kernel
  have hput : (IsDropped '1' ∧ ¬ KeepsApart ['d'] '1' "on't".toList) ∧
      IsDropped '\'' ∧ ¬ KeepsApart "don".toList '\'' ['t'] := by decide +kernel
  have hinterspersed : Interspersed "dont".toList "d1on't".toList :=
    have hquoted : Interspersed "dont".toList "don't".toList :=
      .insert (x := "don".toList) (y := ['t']) .refl hput.2.1 hput.2.2
    .insert (x := ['d']) (y := "on't".toList) hquoted hput.1.1 hput.1.2
  obtain ⟨hsingle, hany⟩ := dropped_without_trace
  exact ⟨haccent.1, (hsingle x y _ haccent.1).mpr haccent.2, hinterspersed, (hany _ _ hinterspersed).2.1⟩

/-- A digit between two marks that are letters: the iota below a letter, and a point that comes before it in
canonical form. Without the digit they change places. -/
theorem digit_leaves_trace :
    let x := "α\u0345"
    let y := "\u05B0"
    IsDropped '1' ∧ clean (x ++ String.singleton '1' ++ y) = "α\u0345\u05B0" ∧
      clean (x ++ y) = "α\u05B0\u0345" ∧
      clean (x ++ String.singleton '1' ++ y) ≠ clean (x ++ y) ∧
      terms (x ++ String.singleton '1' ++ y) ≠ terms (x ++ y) := by
  decide +kernel

end Concordance.Text
