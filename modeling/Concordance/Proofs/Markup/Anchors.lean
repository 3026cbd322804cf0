import Concordance.Markup.Anchor
import Concordance.Proofs.Markup.Pieces
import Concordance.Proofs.Text.Chunks
import Mathlib.Data.List.TakeWhile

/-!
# Targets of anchors

The target of an anchor is looked for as a name, an equals sign and a quoted value, and not attribute by
attribute. So the search stops at the first attribute whose name ends in `href`, whatever stands before
that in the name. It can even stop inside a value, if that ends in `href` and an equals sign: then the
quote that closes the value is taken for one that opens the target.

## Main definitions

* `Attribute`: an attribute with a quoted value
* `Attribute.isHref`, `Attribute.endsInHref`, `Attribute.HoldsHref`: what the search is for, and what it
  stops at
* `AnchorTag`: an anchor with its attributes, or the end of an anchor

## Main results

* `anchorTarget_append`: the target of an anchor
* `targets_writePage`: the targets of a page
-/

namespace Concordance.Markup

open Text (isWhiteSpace)

/-- An attribute: white space, a name, an equals sign and a value between two quotes of one kind. -/
structure Attribute where
  blanks : List Char
  name : List Char
  quote : Char
  value : List Char
  blanks_ne_nil : blanks ≠ []
  blanks_white : ∀ c ∈ blanks, isWhiteSpace c = true
  name_plain : ∀ c ∈ name, c.isAlphanum = true ∨ c = '-'
  quote_eq : quote = '"' ∨ quote = '\''
  value_plain : ∀ c ∈ value, c ≠ '"' ∧ c ≠ '\'' ∧ c ≠ '<' ∧ c ≠ '>'

/-- A text that starts with the name of a target, in any case, and goes on with an equals sign, with white
space around it or none. -/
def IsLead (text : List Char) : Prop :=
  ∃ written before after, written.map foldLetter = "href".toList ∧
    (∀ c ∈ before, isWhiteSpace c = true) ∧ (∀ c ∈ after, isWhiteSpace c = true) ∧
    text = written ++ (before ++ '=' :: after)

namespace Attribute

variable (a : Attribute)

/-- An attribute as it is written. -/
def written : List Char :=
  a.blanks ++ (a.name ++ '=' :: a.quote :: (a.value ++ [a.quote]))

/-- Whether an attribute is named `href`, in any case. -/
def isHref : Bool :=
  a.name.map foldLetter == "href".toList

/-- Whether the name of an attribute ends in `href`, in any case. -/
def endsInHref : Bool :=
  "href".toList.isSuffixOf (a.name.map foldLetter)

/-- The value of an attribute ends in what leads to a target. -/
def HoldsHref : Prop :=
  ∃ lead, IsLead lead ∧ lead <:+ a.value

section

variable {a}

theorem endsInHref_of_isHref (h : a.isHref = true) : a.endsInHref = true := by
  rw [endsInHref, beq_iff_eq.mp h]
  exact List.isSuffixOf_iff_suffix.mpr (List.suffix_refl _)

/-- A value without an equals sign holds no `href`. -/
theorem not_holdsHref (h : '=' ∉ a.value) : ¬ a.HoldsHref := by
  rintro ⟨lead, ⟨written, before, after, -, -, -, rfl⟩, hsuffix⟩
  exact h (hsuffix.mem (by simp))

end

end Attribute

/-- A tag of an anchor: one that opens it, with attributes, or the one that closes it. -/
inductive AnchorTag where
  | opening (attributes : List Attribute)
  | closing

namespace AnchorTag

/-- A tag of an anchor as it is written. -/
def written : AnchorTag → List Char
  | opening attributes => '<' :: 'a' :: (attributes.flatMap Attribute.written ++ ['>'])
  | closing => ['<', '/', 'a', '>']

/-- The value of the first attribute of a kind. -/
def valueOf (kind : Attribute → Bool) : AnchorTag → Option (List Char)
  | opening attributes => (attributes.find? kind).map Attribute.value
  | closing => none

end AnchorTag

/-! ## Where a target starts -/

section Targets

variable {text rest : List Char}

theorem exists_of_quotedValue {found : List Char × Nat} (h : quotedValue text = some found) :
    ∃ quote more, text = quote :: more ∧ (quote = '"' ∨ quote = '\'') := by
  unfold quotedValue at h
  split at h
  · rename_i quote more
    refine ⟨quote, more, rfl, ?_⟩
    exact Decidable.byContradiction fun hnot => by simp [hnot] at h
  · cases h

/-- A target starts with what leads to it and with a quote. -/
theorem exists_of_targetAt {found : List Char × Nat} (h : targetAt text = some found) :
    ∃ lead quote more, IsLead lead ∧ (quote = '"' ∨ quote = '\'') ∧ text = lead ++ quote :: more := by
  unfold targetAt at h
  split at h
  · cases h
  · rename_i hlength
    obtain ⟨written, ⟨more, rfl⟩, hname⟩ := exists_of_nameLength_ne_zero hlength
    have hwritten : written.length = 4 := length_eq_of_map_foldLetter hname
    have hdrop : (written ++ more).drop 4 = more := List.drop_left' hwritten
    simp only [hdrop, ← List.drop_drop, blankLength, drop_lengthWhile] at h
    split at h
    · rename_i rest hbefore
      obtain ⟨target, htarget, -⟩ := Option.map_eq_some_iff.mp h
      obtain ⟨quote, after, hafter, hquote⟩ := exists_of_quotedValue htarget
      refine ⟨written ++ (more.takeWhile isWhiteSpace ++ '=' :: rest.takeWhile isWhiteSpace), quote,
        after, ⟨written, _, _, hname, fun _ => List.mem_takeWhile_imp, fun _ => List.mem_takeWhile_imp,
          rfl⟩, hquote, ?_⟩
      have hrest : rest = rest.takeWhile isWhiteSpace ++ quote :: after := by
        rw [← hafter, List.takeWhile_append_dropWhile]
      have hmore : more = more.takeWhile isWhiteSpace ++ '=' :: rest := by
        rw [← hbefore, List.takeWhile_append_dropWhile]
      rw [List.append_assoc, List.append_assoc, List.cons_append, ← hrest, ← hmore]
    · cases h

theorem quotedValue_append {quote : Char} (hquote : quote = '"' ∨ quote = '\'') {value : List Char}
    (hvalue : quote ∉ value) (rest : List Char) :
    quotedValue (quote :: (value ++ quote :: rest)) = some (value, value.length + 2) := by
  have hlength : lengthWhile (· != quote) (value ++ quote :: rest) = value.length :=
    lengthWhile_append_cons (fun c hc => bne_iff_ne.mpr (ne_of_mem_of_not_mem hc hvalue)) (by simp) rest
  simp [quotedValue, hquote, hlength]

/-- An attribute named `href` is a target from its name on. -/
theorem targetAt_of_href {written value : List Char} {quote : Char}
    (hname : written.map foldLetter = "href".toList) (hquote : quote = '"' ∨ quote = '\'')
    (hvalue : quote ∉ value) (rest : List Char) :
    targetAt (written ++ '=' :: quote :: (value ++ quote :: rest)) = some (value, value.length + 7) := by
  have hwritten : written.length = 4 := length_eq_of_map_foldLetter hname
  have hspace : isWhiteSpace quote = false := by
    rcases hquote with rfl | rfl <;> decide
  have hlength := nameLength_append hname ('=' :: quote :: (value ++ quote :: rest))
  have hdrop : (written ++ '=' :: quote :: (value ++ quote :: rest)).drop 4
      = '=' :: quote :: (value ++ quote :: rest) := List.drop_left' hwritten
  have hbefore : blankLength ('=' :: quote :: (value ++ quote :: rest)) = 0 := rfl
  have hafter : blankLength (quote :: (value ++ quote :: rest)) = 0 := by
    simp [blankLength, lengthWhile, hspace]
  rw [targetAt, if_neg (by omega)]
  simp only [hdrop, hbefore, Nat.add_zero, hafter, List.drop_zero, quotedValue_append hquote hvalue,
    Option.map_some]
  simp
  omega

/-- A letter of a name in any case is no character whose letter the name has not. -/
theorem ne_of_map_foldLetter_eq {written : List Char} (hname : written.map foldLetter = "href".toList)
    {c d : Char} (hc : c ∈ written) (hd : foldLetter d ∉ "href".toList) : c ≠ d := by
  rintro rfl
  exact hd (hname ▸ List.mem_map_of_mem hc)

section White

variable {c d : Char} (hc : isWhiteSpace c = true)

include hc

theorem ne_of_isWhiteSpace (hd : isWhiteSpace d = false) : c ≠ d := by
  rintro rfl
  rw [hc] at hd
  cases hd

theorem isAlphanum_of_isWhiteSpace : c.isAlphanum = false :=
  Text.forall_isWhiteSpace (p := fun c => c.isAlphanum = false) (by decide +kernel) hc

theorem foldLetter_ne_of_isWhiteSpace : foldLetter c ≠ 'h' :=
  Text.forall_isWhiteSpace (p := fun c => foldLetter c ≠ 'h') (by decide +kernel) hc

end White

/-- Two texts up to the first character of a kind are the same if they go on to the same. -/
theorem eq_of_append_cons_eq {p : Char → Bool} {left right : List Char} {c d : Char}
    {more rest : List Char} (hleft : ∀ e ∈ left, p e = true) (hright : ∀ e ∈ right, p e = true)
    (hc : p c = false) (hd : p d = false) (h : left ++ c :: more = right ++ d :: rest) :
    left = right := by
  have htake := congrArg (List.takeWhile p) h
  simpa [List.takeWhile_append_of_pos hleft, List.takeWhile_append_of_pos hright, hc, hd] using htake

/-- A target that starts in a name, where that goes on to the equals sign, starts with a whole `href`. -/
theorem map_foldLetter_of_targetAt {name : List Char} (hplain : ∀ c ∈ name, c.isAlphanum = true ∨ c = '-')
    {found : List Char × Nat} (h : targetAt (name ++ '=' :: rest) = some found) :
    name.map foldLetter = "href".toList := by
  obtain ⟨_, quote, more, ⟨written, before, after, hname, hbefore, -, rfl⟩, -, heq⟩ :=
    exists_of_targetAt h
  -- up to the first equals sign, which neither side has in it
  have hsame : name = written ++ before := by
    rw [← List.append_assoc, List.append_assoc, List.cons_append] at heq
    refine eq_of_append_cons_eq (p := (· != '=')) (fun c hc => ?_) (fun c hc => ?_) rfl rfl heq
    · rcases hplain c hc with hc | rfl
      · refine bne_iff_ne.mpr ?_
        rintro rfl
        exact absurd hc (by decide)
      · rfl
    · rcases List.mem_append.mp hc with hc | hc
      · exact bne_iff_ne.mpr (ne_of_map_foldLetter_eq hname hc (by decide))
      · exact bne_iff_ne.mpr (ne_of_isWhiteSpace (hbefore c hc) (by decide))
  cases before with
  | nil => rwa [hsame, List.append_nil]
  | cons c before =>
    have hspace : isWhiteSpace c = true := hbefore c List.mem_cons_self
    rcases hplain c (by simp [hsame]) with hc | rfl
    · rw [isAlphanum_of_isWhiteSpace hspace] at hc
      cases hc
    · exact absurd hspace (by decide)

/-- A target that starts in a value, where that goes on to its closing quote, is what leads to a target. -/
theorem isLead_of_targetAt {value : List Char} (hvalue : ∀ c ∈ value, c ≠ '"' ∧ c ≠ '\'') {quote : Char}
    (hquote : quote = '"' ∨ quote = '\'') {found : List Char × Nat}
    (h : targetAt (value ++ quote :: rest) = some found) : IsLead value := by
  obtain ⟨lead, other, more, hlead, hother, heq⟩ := exists_of_targetAt h
  have hsame : value = lead := by
    refine eq_of_append_cons_eq (p := fun c => c != '"' && c != '\'') (fun c hc => ?_) (fun c hc => ?_)
      ?_ ?_ heq
    · simpa using hvalue c hc
    · obtain ⟨written, before, after, hname, hbefore, hafter, rfl⟩ := hlead
      simp only [List.mem_append, List.mem_cons] at hc
      rw [Bool.and_eq_true, bne_iff_ne, bne_iff_ne]
      rcases hc with hc | hc | rfl | hc
      · exact ⟨ne_of_map_foldLetter_eq hname hc (by decide), ne_of_map_foldLetter_eq hname hc (by decide)⟩
      · exact ⟨ne_of_isWhiteSpace (hbefore c hc) (by decide), ne_of_isWhiteSpace (hbefore c hc) (by decide)⟩
      · decide
      · exact ⟨ne_of_isWhiteSpace (hafter c hc) (by decide), ne_of_isWhiteSpace (hafter c hc) (by decide)⟩
    · rcases hquote with rfl | rfl <;> rfl
    · rcases hother with rfl | rfl <;> rfl
  exact hsame ▸ hlead

end Targets

/-! ## The search for a target -/

section Search

variable {text rest : List Char}

/-- One where a target starts, and zero elsewhere. -/
def targetStart (text : List Char) : Nat :=
  if (targetAt text).isSome then 1 else 0

theorem targetStart_eq_zero_iff : targetStart text = 0 ↔ ∀ found, targetAt text ≠ some found := by
  cases h : targetAt text <;> simp [targetStart, h]

/-- The search passes over a text in which no target starts. -/
theorem firstTarget_append (hfree : IsFreeBefore targetStart text rest) (hclosed : '>' ∉ text) :
    firstTarget (text ++ rest)
      = (firstTarget rest).map fun found => (found.1, found.2 + text.length) := by
  induction text with
  | nil => simp
  | cons c text ih =>
    rw [isFreeBefore_cons, targetStart_eq_zero_iff, ← Option.eq_none_iff_forall_ne_some] at hfree
    rw [List.mem_cons, not_or] at hclosed
    rw [List.cons_append, firstTarget, hfree.1]
    simp only [Ne.symm hclosed.1, if_false, ih hfree.2 hclosed.2, Option.map_map]
    rfl

theorem firstTarget_of_targetAt {found : List Char × Nat} (h : targetAt text = some found) :
    firstTarget text = some found := by
  cases text with
  | nil =>
    obtain ⟨lead, quote, more, -, -, heq⟩ := exists_of_targetAt h
    simp at heq
  | cons c text => rw [firstTarget, h]

/-- A target starts with an h, in either case. -/
theorem targetAt_eq_none {c : Char} (hc : foldLetter c ≠ 'h') (rest : List Char) :
    targetAt (c :: rest) = none := by
  refine Option.eq_none_iff_forall_ne_some.mpr fun found htarget => hc ?_
  obtain ⟨_, quote, more, ⟨written, before, after, hname, -, -, rfl⟩, -, heq⟩ :=
    exists_of_targetAt htarget
  cases written with
  | nil => cases hname
  | cons d written =>
    obtain rfl : c = d := (List.cons.inj heq).1
    exact (List.cons.inj hname).1

theorem isFree_targetStart (h : ∀ c ∈ text, foldLetter c ≠ 'h') : IsFree targetStart text := by
  intro rest
  induction text with
  | nil => exact isFreeBefore_nil
  | cons c text ih =>
    rw [List.forall_mem_cons] at h
    refine isFreeBefore_cons.mpr ⟨targetStart_eq_zero_iff.mpr fun found => ?_, ih h.2⟩
    rw [targetAt_eq_none h.1]
    exact Option.some_ne_none found |>.symm

namespace Attribute

variable (a : Attribute)

/-- No tag starts or ends in an attribute. -/
theorem not_mem_written {c : Char} (hc : c = '<' ∨ c = '>') : c ∉ a.written := by
  intro hmem
  have hquote : c ≠ a.quote := by
    rcases a.quote_eq with h | h <;> rcases hc with rfl | rfl <;> rw [h] <;> decide
  simp only [written, List.mem_append, List.mem_cons, List.not_mem_nil, or_false] at hmem
  rcases hmem with hmem | hmem | hmem | hmem | hmem | hmem
  · have hspace := a.blanks_white c hmem
    rcases hc with rfl | rfl <;> exact absurd hspace (by decide)
  · have hplain := a.name_plain c hmem
    rcases hc with rfl | rfl <;> exact absurd hplain (by decide)
  · rcases hc with rfl | rfl <;> exact absurd hmem (by decide)
  · exact hquote hmem
  · obtain ⟨-, -, hopened, hclosed⟩ := a.value_plain c hmem
    exact hc.elim hopened hclosed
  · exact hquote hmem

theorem isFree_blanks : IsFree targetStart a.blanks :=
  isFree_targetStart fun c hc => foldLetter_ne_of_isWhiteSpace (a.blanks_white c hc)

variable {a}

theorem map_foldLetter_of_suffix {tail : List Char} (htail : tail <:+ a.name) {found : List Char × Nat}
    (h : targetAt (tail ++ '=' :: rest) = some found) : tail.map foldLetter = "href".toList :=
  map_foldLetter_of_targetAt (fun c hc => a.name_plain c (htail.mem hc)) h

theorem isFreeBefore_name (h : a.endsInHref = false) (rest : List Char) :
    IsFreeBefore targetStart a.name ('=' :: rest) := by
  intro tail htail _
  refine targetStart_eq_zero_iff.mpr fun found htarget => ?_
  have hends : a.endsInHref = true := by
    rw [endsInHref, List.isSuffixOf_iff_suffix, ← map_foldLetter_of_suffix htail htarget]
    exact htail.map foldLetter
  rw [h] at hends
  cases hends

/-- Before the `href` that a name ends in no target starts: what is left of the name from there on would
have to be `href`, and it is longer. -/
theorem isFreeBefore_stem {stem last : List Char} (hname : a.name = stem ++ last)
    (hlast : last.map foldLetter = "href".toList) (rest : List Char) :
    IsFreeBefore targetStart stem (last ++ '=' :: rest) := by
  rintro tail ⟨lead, hlead⟩ hne
  refine targetStart_eq_zero_iff.mpr fun found htarget => hne ?_
  have hsuffix : tail ++ last <:+ a.name := ⟨lead, by rw [hname, ← hlead, List.append_assoc]⟩
  rw [← List.append_assoc] at htarget
  have hhref := map_foldLetter_of_suffix hsuffix htarget
  rw [List.map_append, hlast] at hhref
  exact List.map_eq_nil_iff.mp (List.append_left_eq_self.mp hhref)

theorem isFreeBefore_value (h : ¬ a.HoldsHref) (rest : List Char) :
    IsFreeBefore targetStart a.value (a.quote :: rest) := by
  intro tail htail _
  refine targetStart_eq_zero_iff.mpr fun found htarget => h ⟨tail, ?_, htail⟩
  refine isLead_of_targetAt (fun c hc => ?_) a.quote_eq htarget
  obtain ⟨hdouble, hsingle, -⟩ := a.value_plain c (htail.mem hc)
  exact ⟨hdouble, hsingle⟩

/-- In an attribute whose name does not end in `href`, and whose value does not hold one, the search does
not stop. -/
theorem isFree (hname : a.endsInHref = false) (hvalue : ¬ a.HoldsHref) : IsFree targetStart a.written := by
  have hquote : foldLetter a.quote ≠ 'h' := by
    rcases a.quote_eq with h | h <;> rw [h] <;> decide
  have hsign : IsFree targetStart ['=', a.quote] := isFree_targetStart (by simpa using ⟨by decide, hquote⟩)
  have hend : IsFree targetStart [a.quote] := isFree_targetStart (by simpa using hquote)
  intro rest
  exact (a.isFree_blanks _).append ((isFreeBefore_name hname _).append
    ((hsign _).append ((isFreeBefore_value hvalue _).append (hend rest))))

/-- The search takes the value of an attribute whose name ends in `href`. -/
theorem firstTarget_of_endsInHref (h : a.endsInHref = true) (rest : List Char) :
    firstTarget (a.written ++ rest) = some (a.value, a.written.length) := by
  obtain ⟨start, hstart⟩ := List.isSuffixOf_iff_suffix.mp h
  obtain ⟨stem, last, hname, -, hlast⟩ := List.map_eq_append_iff.mp hstart.symm
  have hlength : last.length = 4 := length_eq_of_map_foldLetter hlast
  have hquote : a.quote ∉ a.value := by
    intro hmem
    obtain ⟨hdouble, hsingle, -⟩ := a.value_plain _ hmem
    exact a.quote_eq.elim hdouble hsingle
  have hclosed : '>' ∉ a.blanks ++ stem := by
    intro hmem
    refine a.not_mem_written (.inr rfl) ?_
    rw [written, hname, List.append_assoc stem, ← List.append_assoc a.blanks]
    exact List.mem_append_left _ hmem
  -- the search passes over the white space and the stem, and stops where the name goes on with `href`
  have hwritten : a.written ++ rest
      = (a.blanks ++ stem) ++ (last ++ '=' :: a.quote :: (a.value ++ a.quote :: rest)) := by
    simp [written, hname]
  have hfree : IsFreeBefore targetStart (a.blanks ++ stem)
      (last ++ '=' :: a.quote :: (a.value ++ a.quote :: rest)) :=
    (a.isFree_blanks _).append (isFreeBefore_stem hname hlast _)
  rw [hwritten, firstTarget_append hfree hclosed,
    firstTarget_of_targetAt (targetAt_of_href hlast a.quote_eq hquote rest), Option.map_some]
  simp [written, hname, hlength]
  omega

end Attribute

end Search

/-! ## The target of an anchor -/

section Anchors

variable {attributes : List Attribute} {text rest : List Char}

/-- After white space the name of an anchor is complete. -/
theorem anchorTarget_of_head {b : Char} (hb : isWhiteSpace b = true) :
    anchorTarget ('<' :: 'a' :: b :: text)
      = (firstTarget (b :: text)).map fun found => (found.1, found.2 + 2) := by
  have hfree : IsFree targetStart [b] :=
    isFree_targetStart (by simpa using foldLetter_ne_of_isWhiteSpace hb)
  have hclosed : '>' ≠ b := (ne_of_isWhiteSpace hb (by decide)).symm
  have hskip := firstTarget_append (hfree text) (by simpa using hclosed)
  rw [List.singleton_append] at hskip
  rw [hskip, Option.map_map]
  simp only [anchorTarget, hb, and_true]
  rfl

/-- Attributes start with white space. -/
theorem anchorTarget_attributes (hne : attributes ≠ []) (rest : List Char) :
    anchorTarget ('<' :: 'a' :: (attributes.flatMap Attribute.written ++ rest))
      = (firstTarget (attributes.flatMap Attribute.written ++ rest)).map
          fun found => (found.1, found.2 + 2) := by
  obtain ⟨a, attributes, rfl⟩ := List.exists_cons_of_ne_nil hne
  obtain ⟨b, blanks, hblanks⟩ := List.exists_cons_of_ne_nil a.blanks_ne_nil
  have hb : isWhiteSpace b = true := a.blanks_white b (by simp [hblanks])
  rw [List.flatMap_cons, Attribute.written, hblanks]
  exact anchorTarget_of_head hb

theorem isFree_flatMap_written
    (h : ∀ a ∈ attributes, a.endsInHref = false ∧ ¬ a.HoldsHref) :
    IsFree targetStart (attributes.flatMap Attribute.written) :=
  .flatMap fun a ha => Attribute.isFree (h a ha).1 (h a ha).2

theorem closed_not_mem_flatMap_written : '>' ∉ attributes.flatMap Attribute.written := by
  intro hmem
  obtain ⟨a, -, hmem⟩ := List.mem_flatMap.mp hmem
  exact a.not_mem_written (.inr rfl) hmem

/-- An anchor with no attribute at which the search stops has no target. -/
theorem anchorTarget_eq_none (h : ∀ a ∈ attributes, a.endsInHref = false ∧ ¬ a.HoldsHref)
    (rest : List Char) :
    anchorTarget ('<' :: 'a' :: (attributes.flatMap Attribute.written ++ '>' :: rest)) = none := by
  have hend : firstTarget ('>' :: rest) = none := by
    rw [firstTarget, targetAt_eq_none (by decide)]
    rfl
  cases attributes with
  | nil =>
    have hclosed : isWhiteSpace '>' = false := by decide
    simp [anchorTarget, hclosed]
  | cons a attributes =>
    rw [anchorTarget_attributes (List.cons_ne_nil _ _),
      firstTarget_append (isFree_flatMap_written h _) closed_not_mem_flatMap_written, hend]
    rfl

/-- **The target of an anchor** is the value of its first attribute whose name ends in `href`, where no
value before that holds an `href`. The anchor is taken up to the end of that attribute. -/
theorem anchorTarget_append {a : Attribute}
    (h : ∀ a ∈ attributes, a.endsInHref = false ∧ ¬ a.HoldsHref) (ha : a.endsInHref = true)
    (rest : List Char) :
    anchorTarget ('<' :: 'a' :: ((attributes ++ [a]).flatMap Attribute.written ++ rest))
      = some (a.value, ((attributes ++ [a]).flatMap Attribute.written).length + 2) := by
  have hwritten : (attributes ++ [a]).flatMap Attribute.written ++ rest
      = attributes.flatMap Attribute.written ++ (a.written ++ rest) := by simp
  rw [anchorTarget_attributes (by simp), hwritten,
    firstTarget_append (isFree_flatMap_written h _) closed_not_mem_flatMap_written,
    Attribute.firstTarget_of_endsInHref ha]
  simp [Nat.add_comm]

/-! ### The targets of a page -/

theorem opensWith_anchorLength : OpensWith anchorLength '<' := by
  intro c rest hne
  have hnone : anchorTarget (c :: rest) = none := by
    unfold anchorTarget
    split
    · rename_i heq
      exact absurd (List.cons.inj heq).1 hne
    · rfl
  rw [anchorLength, hnone]

namespace AnchorTag

/-- Before its first attribute whose name ends in `href`, no value of an anchor holds an `href`. -/
def IsClear : AnchorTag → Prop
  | opening attributes => ∀ a ∈ attributes.takeWhile fun a => !a.endsInHref, ¬ a.HoldsHref
  | closing => True

theorem isFree_commentLength (tag : AnchorTag) : IsFree commentLength tag.written := by
  cases tag with
  | opening attributes =>
    refine opensWith_commentLength.isFree_cons ?_ fun rest => commentLength_eq_zero (by decide) _
    simpa using fun a _ => a.not_mem_written (.inl rfl)
  | closing =>
    exact opensWith_commentLength.isFree_cons (by decide) fun rest => commentLength_eq_zero (by decide) _

theorem isFree_closing : IsFree anchorLength closing.written := by
  refine opensWith_anchorLength.isFree_cons (by decide) fun rest => ?_
  simp [anchorLength, anchorTarget]

/-- An anchor without an attribute at which the search stops is no span. -/
theorem isFree_opening (h : ∀ a ∈ attributes, a.endsInHref = false ∧ ¬ a.HoldsHref) :
    IsFree anchorLength (opening attributes).written := by
  refine opensWith_anchorLength.isFree_cons ?_ fun rest => ?_
  · simpa using fun a _ => a.not_mem_written (.inl rfl)
  · have hnone := anchorTarget_eq_none h rest
    rw [anchorLength]
    simp [hnone]

/-- An anchor is a span up to the end of the attribute at which the search stops. -/
theorem isWholeSpan_opening {a : Attribute}
    (h : ∀ a ∈ attributes, a.endsInHref = false ∧ ¬ a.HoldsHref) (ha : a.endsInHref = true) :
    IsWholeSpan anchorLength ('<' :: 'a' :: (attributes ++ [a]).flatMap Attribute.written) := by
  refine ⟨List.cons_ne_nil _ _, fun rest => ?_⟩
  have htarget := anchorTarget_append h ha rest
  rw [anchorLength, List.cons_append, List.cons_append, htarget]
  rfl

theorem filterMap_findSpans {tag : AnchorTag} (h : tag.IsClear) (rest : List Char) :
    (findSpans anchorLength (tag.written ++ rest)).filterMap
        (fun anchor => (anchorTarget anchor).map (·.1))
      = (tag.valueOf Attribute.endsInHref).toList ++ (findSpans anchorLength rest).filterMap
          fun anchor => (anchorTarget anchor).map (·.1) := by
  cases tag with
  | closing =>
    rw [findSpans_append_of_isFreeBefore (isFree_closing rest)]
    rfl
  | opening attributes =>
    cases hfind : attributes.find? Attribute.endsInHref with
    | none =>
      rw [List.find?_eq_none] at hfind
      have hfree : IsFree anchorLength (opening attributes).written := by
        refine isFree_opening fun a ha => ⟨by simpa using hfind a ha, h a ?_⟩
        rwa [List.takeWhile_eq_self_iff.mpr fun a ha => by simpa using hfind a ha]
      rw [findSpans_append_of_isFreeBefore (hfree rest), valueOf, List.find?_eq_none.mpr hfind]
      rfl
    | some a =>
      obtain ⟨hends, before, after, rfl, hbefore⟩ := List.find?_eq_some_iff_append.mp hfind
      have hclear : ∀ a ∈ before, a.endsInHref = false ∧ ¬ a.HoldsHref := by
        intro b hb
        refine ⟨by simpa using hbefore b hb, h b ?_⟩
        rw [List.takeWhile_append_of_pos hbefore]
        exact List.mem_append_left _ hb
      -- the span ends with the target, and in the rest of the anchor there is no bracket to start another
      have hafter : IsFree anchorLength (after.flatMap Attribute.written ++ ['>']) :=
        opensWith_anchorLength.isFree (by simpa using fun a _ => a.not_mem_written (.inl rfl))
      have hwritten : (opening (before ++ a :: after)).written ++ rest
          = ('<' :: 'a' :: (before ++ [a]).flatMap Attribute.written)
            ++ ((after.flatMap Attribute.written ++ ['>']) ++ rest) := by
        simp [written]
      have htarget := anchorTarget_append hclear hends []
      rw [List.append_nil] at htarget
      rw [hwritten, findSpans_append_of_isWholeSpan (isWholeSpan_opening hclear hends),
        findSpans_append_of_isFreeBefore (hafter rest), List.filterMap_cons, htarget, valueOf, hfind]
      rfl

end AnchorTag

/-- The value of the first attribute of a kind, if a piece is an anchor. -/
def Piece.valueOf (kind : Attribute → Bool) : Piece AnchorTag → Option (List Char)
  | .tag anchor => anchor.valueOf kind
  | _ => none

/-- **The targets of a page.** Where no value holds an `href` before the target, the targets are the values
of the first attributes whose names end in `href`, in order. Comments have none. -/
theorem targets_writePage {page : List (Piece AnchorTag)} (h : ∀ tag, .tag tag ∈ page → tag.IsClear) :
    targets (writePage AnchorTag.written page)
      = page.filterMap (Piece.valueOf Attribute.endsInHref) := by
  have hcomments : (page.filter fun piece => !piece.isComment).filterMap
      (Piece.valueOf Attribute.endsInHref) = page.filterMap (Piece.valueOf Attribute.endsInHref) := by
    rw [List.filterMap_filter]
    congr 1
    funext piece
    cases piece <;> rfl
  rw [targets, removeComments_writePage AnchorTag.isFree_commentLength, ← hcomments]
  refine filterMap_findSpans_flatMap fun piece hpiece rest => ?_
  obtain ⟨hpiece, hkind⟩ := List.mem_filter.mp hpiece
  match piece with
  | .text content hcontent =>
    rw [Piece.written, findSpans_append_of_isFreeBefore (opensWith_anchorLength.isFree hcontent rest)]
    rfl
  | .comment _ _ => contradiction
  | .tag tag => exact AnchorTag.filterMap_findSpans (h tag hpiece) rest

end Anchors

end Concordance.Markup
