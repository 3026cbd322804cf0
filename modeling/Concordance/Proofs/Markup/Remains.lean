import Concordance.Proofs.Markup.Elements

/-!
# What is left of a page

Comments and block elements go kind by kind, each kind once. Within one pass nothing is missed: after it
no character stands where a span of its kind started. But a deletion joins what was on both sides of it,
and what it joins can be the tag of an element whose kind has had its turn. So an element can be left, and
then one of its two tags is not in the page as it was: between two of its characters some were deleted.

The characters of a page are followed through the passes by their places in the page.

## Main definitions

* `IsMarkPair`, `IsBlock`: what opens and closes a comment or a block element
* `passes`: the kinds of spans that go, one after the other
* `remains`: what is left of a page, with the places where it stood
* `IsUncut`: a part of a page with nothing deleted in it

## Main results

* `IsMarkPair.exists_passes`, `exists_isBlock_of_passes`: the passes look for comments and block elements
* `removeBlocks_eq_self_iff`: a text loses nothing exactly if there is no comment or block element in it
* `removeBlocks_leaves`: what is left was put together by a deletion
-/

namespace Concordance.Markup

open Text (isWhiteSpace)

/-! ## Comments and block elements -/

/-- What opens and closes a comment, or a block element: an opening tag, which may have attributes after
white space, and a closing tag with the same name. -/
inductive IsMarkPair : List Char → List Char → Prop
  | comment : IsMarkPair commentOpening commentClosing
  | element {opening attributes closing blanks : List Char}
      (hname : opening.map foldLetter ∈ blockNames)
      (hstart : ∀ c ∈ attributes.head?, isWhiteSpace c = true) (hclosed : '>' ∉ attributes)
      (heq : closing.map foldLetter = opening.map foldLetter)
      (hblanks : ∀ c ∈ blanks, isWhiteSpace c = true) :
      IsMarkPair ('<' :: (opening ++ (attributes ++ ['>'])))
        ('<' :: '/' :: (closing ++ (blanks ++ ['>'])))

/-- A complete comment or block element, whatever is in it. -/
def IsBlock (span : List Char) : Prop :=
  ∃ opening content closing, IsMarkPair opening closing ∧ span = opening ++ content ++ closing

theorem IsMarkPair.ne_nil {opening closing : List Char} (h : IsMarkPair opening closing) :
    opening ≠ [] ∧ closing ≠ [] := by
  cases h with
  | comment => exact ⟨by decide, by decide⟩
  | element => exact ⟨List.cons_ne_nil _ _, List.cons_ne_nil _ _⟩

/-- The kinds of spans that go, in the order in which they do. -/
def passes : List (List Char → Nat) :=
  commentLength :: blockNames.map blockLength

theorem removeBlocks_eq (page : List Char) :
    removeBlocks page = passes.foldl (fun text spanLength => removeSpans spanLength text) page := by
  simp only [removeBlocks, removeComments, passes, List.foldl_cons, List.foldl_map]
  rfl

/-! ## The passes look for comments and block elements -/

section Kinds

variable {spanLength : List Char → Nat} {name text rest : List Char}

/-- Behind its opening tag a block element goes up to the first closing tag, if there is one. -/
theorem blockLength_ne_zero_iff {opening attributes : List Char}
    (hname : opening.map foldLetter ∈ blockNames)
    (hstart : ∀ c ∈ attributes.head?, isWhiteSpace c = true) (hclosed : '>' ∉ attributes) :
    blockLength (opening.map foldLetter) ('<' :: (opening ++ (attributes ++ '>' :: rest))) ≠ 0 ↔
      (lengthUntil (closingLength (opening.map foldLetter)) rest).isSome = true := by
  have hdrop : ('<' :: (opening ++ (attributes ++ '>' :: rest))).drop
      (opening.length + attributes.length + 1 + 1) = rest := by
    have hsplit : '<' :: (opening ++ (attributes ++ '>' :: rest))
        = '<' :: (opening ++ (attributes ++ ['>'])) ++ rest := by simp
    rw [hsplit, List.drop_left']
    simp [Nat.add_assoc]
  rw [blockLength, openingLength_of_tag (ne_nil_of_mem_blockNames _ hname) rfl hstart hclosed]
  simp only [hdrop]
  cases lengthUntil (closingLength (opening.map foldLetter)) rest <;> simp

/-- A pair of marks is looked for by one of the passes, whatever stands between them and behind. -/
theorem IsMarkPair.exists_passes {opening closing : List Char} (h : IsMarkPair opening closing) :
    ∃ spanLength ∈ passes, ∀ content rest,
      spanLength (opening ++ (content ++ (closing ++ rest))) ≠ 0 := by
  cases h with
  | comment =>
    refine ⟨commentLength, List.mem_cons_self, fun content rest => ?_⟩
    exact commentLength_ne_zero_iff.mpr ⟨content, rest, rfl⟩
  | @element opening attributes closing blanks hname hstart hclosed heq hblanks =>
    refine ⟨blockLength (opening.map foldLetter),
      List.mem_cons_of_mem _ (List.mem_map_of_mem hname), fun content rest => ?_⟩
    have hend := closingLength_of_tag (ne_nil_of_mem_blockNames _ hname) heq hblanks rest
    have hlength := (blockLength_ne_zero_iff hname hstart hclosed).mpr (lengthUntil_isSome_iff.mpr
      ⟨content, _, rfl, List.cons_ne_nil _ _, by rw [hend]; exact Nat.succ_ne_zero _⟩)
    simpa using hlength

/-- What a pass looks for is a comment or a block element. -/
theorem exists_isBlock_of_passes (hmem : spanLength ∈ passes) (h : spanLength text ≠ 0) :
    ∃ span, IsBlock span ∧ span <+: text := by
  rcases List.mem_cons.mp hmem with rfl | hmem
  · obtain ⟨content, rest, rfl⟩ := commentLength_ne_zero_iff.mp h
    exact ⟨_, ⟨_, content, _, .comment, rfl⟩, rest, by simp only [List.append_assoc]⟩
  · obtain ⟨name, hname, rfl⟩ := List.mem_map.mp hmem
    obtain ⟨opening, attributes, after, rfl, rfl, hstart, hclosed⟩ :=
      exists_tag_of_openingLength_ne_zero (openingLength_ne_zero h)
    rw [blockLength_ne_zero_iff hname hstart hclosed, lengthUntil_isSome_iff] at h
    obtain ⟨content, after, rfl, -, hend⟩ := h
    obtain ⟨closing, blanks, rest, rfl, heq, hblanks⟩ := exists_tag_of_closingLength_ne_zero hend
    exact ⟨_, ⟨_, content, _, .element hname hstart hclosed heq hblanks, rfl⟩, rest, by simp⟩

end Kinds

/-! ## Following the characters of a text -/

section Follow

variable {Label : Type} {spanLength : List Char → Nat}

/-- A text without its spans, where every character has a label. The next `skipped` characters belong to
a span that has been deleted already. -/
def keepFrom (spanLength : List Char → Nat) : Nat → List (Char × Label) → List (Char × Label)
  | _, [] => []
  | skipped + 1, _ :: rest => keepFrom spanLength skipped rest
  | 0, x :: rest =>
    match spanLength ((x :: rest).map Prod.fst) with
    | 0 => x :: keepFrom spanLength 0 rest
    | more + 1 => keepFrom spanLength more rest

/-- A text without its spans, where every character keeps its label. -/
def keep (text : List (Char × Label)) (spanLength : List Char → Nat) : List (Char × Label) :=
  keepFrom spanLength 0 text

/-- The labels have no part in what is deleted. -/
theorem map_fst_keep (text : List (Char × Label)) :
    (keep text spanLength).map Prod.fst = removeSpans spanLength (text.map Prod.fst) := by
  suffices h : ∀ skipped, (keepFrom spanLength skipped text).map Prod.fst
      = replaceSpansFrom spanLength (fun _ => []) skipped (text.map Prod.fst) from h 0
  induction text with
  | nil => exact fun skipped => by cases skipped <;> rfl
  | cons x text ih =>
    intro skipped
    cases skipped with
    | succ skipped => exact ih skipped
    | zero =>
      cases hlength : spanLength ((x :: text).map Prod.fst) with
      | zero =>
        rw [List.map_cons] at hlength
        simp only [keepFrom, List.map_cons, replaceSpansFrom, hlength, ih]
      | succ more =>
        rw [List.map_cons] at hlength
        simp only [keepFrom, List.map_cons, replaceSpansFrom, hlength, ih, List.nil_append]

theorem keepFrom_sublist (skipped : Nat) (text : List (Char × Label)) :
    (keepFrom spanLength skipped text).Sublist text := by
  induction text generalizing skipped with
  | nil => cases skipped <;> exact List.Sublist.refl []
  | cons x text ih =>
    cases skipped with
    | succ skipped => exact (ih skipped).cons x
    | zero =>
      rw [keepFrom]
      split
      · exact (ih 0).cons_cons x
      · exact (ih _).cons x

theorem keep_sublist (text : List (Char × Label)) (spanLength : List Char → Nat) :
    (keep text spanLength).Sublist text :=
  keepFrom_sublist 0 text

/-- A character is kept only where no span starts. -/
theorem eq_zero_of_mem_keep {before rest : List (Char × Label)} {x : Char × Label}
    (hnodup : (before ++ x :: rest).Nodup) (h : x ∈ keep (before ++ x :: rest) spanLength) :
    spanLength ((x :: rest).map Prod.fst) = 0 := by
  suffices hfrom : ∀ skipped, x ∈ keepFrom spanLength skipped (before ++ x :: rest) →
      spanLength ((x :: rest).map Prod.fst) = 0 from hfrom 0 h
  clear h
  induction before with
  | nil =>
    have hlater : ∀ skipped, x ∉ keepFrom spanLength skipped rest := fun skipped hmem =>
      (List.nodup_cons.mp hnodup).1 ((keepFrom_sublist skipped rest).subset hmem)
    intro skipped h
    cases skipped with
    | succ skipped => exact absurd h (hlater skipped)
    | zero =>
      rw [List.nil_append, keepFrom] at h
      split at h
      · assumption
      · exact absurd h (hlater _)
  | cons y before ih =>
    rw [List.cons_append, List.nodup_cons] at hnodup
    have hne : x ≠ y := fun heq => hnodup.1 (by simp [heq])
    intro skipped h
    cases skipped with
    | succ skipped => exact ih hnodup.2 skipped h
    | zero =>
      rw [List.cons_append, keepFrom] at h
      split at h
      · exact ih hnodup.2 0 ((List.mem_cons.mp h).resolve_left hne)
      · exact ih hnodup.2 _ h

end Follow

/-! ## A text that loses nothing -/

section Fixed

variable {spanLength : List Char → Nat} {text : List Char}

theorem removeSpans_sublist (spanLength : List Char → Nat) (text : List Char) :
    (removeSpans spanLength text).Sublist text := by
  have hsub := (keep_sublist text.zipIdx spanLength).map Prod.fst
  rwa [map_fst_keep, List.zipIdx_map_fst] at hsub

theorem removeSpans_eq_self_iff : removeSpans spanLength text = text ↔
    IsFreeBefore spanLength text [] := by
  refine ⟨fun h => ?_, removeSpans_of_isFreeBefore⟩
  induction text with
  | nil => exact isFreeBefore_nil
  | cons c text ih =>
    by_cases hzero : spanLength (c :: text) = 0
    · rw [removeSpans, replaceSpans_of_no_span hzero, List.cons.injEq] at h
      exact isFreeBefore_cons.mpr ⟨by rwa [List.append_nil], ih h.2⟩
    · have hspan : removeSpans spanLength (c :: text)
          = removeSpans spanLength ((c :: text).drop (spanLength (c :: text))) :=
        replaceSpans_of_span (Nat.pos_of_ne_zero hzero) (List.cons_ne_nil c text)
      have hle := (removeSpans_sublist spanLength
        ((c :: text).drop (spanLength (c :: text)))).length_le
      rw [← hspan, h, List.length_drop, List.length_cons] at hle
      omega

theorem foldl_sublist {Item Kind : Type} {step : List Item → Kind → List Item}
    (hstep : ∀ text kind, (step text kind).Sublist text) (kinds : List Kind) (text : List Item) :
    (kinds.foldl step text).Sublist text := by
  induction kinds generalizing text with
  | nil => exact List.Sublist.refl text
  | cons kind kinds ih => exact (ih (step text kind)).trans (hstep text kind)

/-- As nothing comes back, passes change nothing exactly if none of them does. -/
theorem foldl_eq_self_iff {Item Kind : Type} {step : List Item → Kind → List Item}
    (hstep : ∀ text kind, (step text kind).Sublist text) (kinds : List Kind) (text : List Item) :
    kinds.foldl step text = text ↔ ∀ kind ∈ kinds, step text kind = text := by
  induction kinds with
  | nil => exact iff_of_true rfl (List.forall_mem_nil _)
  | cons kind kinds ih =>
    rw [List.forall_mem_cons, ← ih, List.foldl_cons]
    constructor
    · intro h
      have hlast := foldl_sublist hstep kinds (step text kind)
      rw [h] at hlast
      have hkind := (hstep text kind).antisymm hlast
      exact ⟨hkind, by rwa [hkind] at h⟩
    · rintro ⟨hkind, hkinds⟩
      rw [hkind, hkinds]

/-- **A text loses nothing exactly if there is no comment and no block element in it.** -/
theorem removeBlocks_eq_self_iff :
    removeBlocks text = text ↔ ∀ span, IsBlock span → ¬ span <:+: text := by
  rw [removeBlocks_eq, foldl_eq_self_iff fun text kind => removeSpans_sublist kind text]
  simp only [removeSpans_eq_self_iff]
  constructor
  · rintro hfree _ ⟨opening, content, closing, hpair, rfl⟩ ⟨before, rest, rfl⟩
    obtain ⟨spanLength, hmem, hspan⟩ := hpair.exists_passes
    have hzero := hfree spanLength hmem (opening ++ content ++ closing ++ rest)
      ⟨before, by simp only [List.append_assoc]⟩ (by simp [hpair.ne_nil.1])
    rw [List.append_nil, List.append_assoc, List.append_assoc] at hzero
    exact hspan content rest hzero
  · intro hnone spanLength hmem tail htail _
    refine Decidable.byContradiction fun hspan => ?_
    rw [List.append_nil] at hspan
    obtain ⟨span, hblock, hbegins⟩ := exists_isBlock_of_passes hmem hspan
    exact hnone span hblock (hbegins.isInfix.trans htail.isInfix)

end Fixed

/-! ## What is left of a page -/

section Remains

/-- What is left of a page, where every character has its place in the page. -/
def remains (page : List Char) : List (Char × Nat) :=
  passes.foldl keep page.zipIdx

/-- A part of a page in which no character was deleted: each stands next to the one before. -/
def IsUncut (part : List (Char × Nat)) : Prop :=
  part.IsChain fun x y => y.2 = x.2 + 1

/-- The characters of a text stand in the order of their places. -/
def IsPlaced (text : List (Char × Nat)) : Prop :=
  text.Pairwise fun x y => x.2 < y.2

variable {text part left : List (Char × Nat)} {page : List Char}

theorem map_fst_remains (page : List Char) : (remains page).map Prod.fst = removeBlocks page := by
  have hkinds : ∀ (kinds : List (List Char → Nat)) (text : List (Char × Nat)),
      (kinds.foldl keep text).map Prod.fst
        = kinds.foldl (fun text spanLength => removeSpans spanLength text) (text.map Prod.fst) := by
    intro kinds
    induction kinds with
    | nil => exact fun text => rfl
    | cons spanLength kinds ih =>
      intro text
      rw [List.foldl_cons, List.foldl_cons, ih, map_fst_keep]
  rw [remains, hkinds, List.zipIdx_map_fst, removeBlocks_eq]

theorem isPlaced_zipIdx (page : List Char) : IsPlaced page.zipIdx := by
  have hplaces : (page.zipIdx.map Prod.snd).Pairwise (· < ·) := by
    rw [List.zipIdx_map_snd]
    exact List.pairwise_lt_range' 1
  exact List.pairwise_map.mp hplaces

theorem IsPlaced.nodup (h : IsPlaced text) : text.Nodup :=
  h.imp fun hlt heq => absurd (heq ▸ hlt) (Nat.lt_irrefl _)

/-- Where a part is uncut in what is left of a text, it is a part of the text: what stands between two
neighbours in the text has a place between theirs. -/
theorem IsUncut.exists_append (hpart : IsUncut part) (hne : part ≠ []) (htext : IsPlaced text)
    (hsub : (part ++ left).Sublist text) :
    ∃ before rest, text = before ++ (part ++ rest) ∧ left.Sublist rest := by
  induction part generalizing text with
  | nil => exact absurd rfl hne
  | cons x part ih =>
    obtain ⟨upto, behind, rfl, hmem, hbehind⟩ := List.cons_sublist_iff.mp hsub
    obtain ⟨before, between, rfl⟩ := List.append_of_mem hmem
    rw [List.append_assoc, List.cons_append] at htext ⊢
    have hlater := hbehind.trans (List.sublist_append_right between behind)
    cases part with
    | nil => exact ⟨before, between ++ behind, rfl, hlater⟩
    | cons y part =>
      have hplaced := (List.pairwise_append.mp htext).2.1
      have hnext : y.2 = x.2 + 1 := (List.isChain_cons_cons.mp hpart).1
      obtain ⟨skipped, rest, heq, hleft⟩ :=
        ih (List.isChain_cons_cons.mp hpart).2 (List.cons_ne_nil y part)
          (List.pairwise_cons.mp hplaced).2 hlater
      rw [heq] at hplaced ⊢
      cases skipped with
      | nil => exact ⟨before, rest, rfl, hleft⟩
      | cons z skipped =>
        -- there is no place left for another character
        rw [List.pairwise_cons] at hplaced
        have hxz : x.2 < z.2 := hplaced.1 z (by simp)
        have hzy : z.2 < y.2 := (List.pairwise_cons.mp hplaced.2).1 y (by simp)
        omega

/-- **A comment or block element is left only where a deletion put one of its two marks together.** -/
theorem not_isUncut_of_isMarkPair {opening content closing : List (Char × Nat)}
    (hpair : IsMarkPair (opening.map Prod.fst) (closing.map Prod.fst))
    (hleft : opening ++ content ++ closing <:+: remains page) :
    ¬ (IsUncut opening ∧ IsUncut closing) := by
  rintro ⟨hopening, hclosing⟩
  obtain ⟨spanLength, hmem, hspan⟩ := hpair.exists_passes
  obtain ⟨earlier, later, hpasses⟩ := List.append_of_mem hmem
  -- the page as the pass over this kind finds it
  obtain ⟨text, htext⟩ : ∃ text, text = earlier.foldl keep page.zipIdx := ⟨_, rfl⟩
  have hplaced : IsPlaced text := by
    rw [htext]
    exact (isPlaced_zipIdx page).sublist (foldl_sublist keep_sublist _ _)
  have hkept : (remains page).Sublist (keep text spanLength) := by
    rw [remains, hpasses, List.foldl_append, ← htext, List.foldl_cons]
    exact foldl_sublist keep_sublist _ _
  -- both marks stand in it, one behind the other, as they are left
  have hsub : (opening ++ (content ++ closing)).Sublist (keep text spanLength) := by
    rw [← List.append_assoc]
    exact hleft.sublist.trans hkept
  have hne : opening ≠ [] ∧ closing ≠ [] := by simpa using hpair.ne_nil
  obtain ⟨before, rest, rfl, hrest⟩ :=
    hopening.exists_append hne.1 hplaced (hsub.trans (keep_sublist _ _))
  have hbehind : (closing ++ []).Sublist rest := by
    rw [List.append_nil]
    exact (List.sublist_append_right content closing).trans hrest
  have hplacedRest : IsPlaced rest :=
    (List.pairwise_append.mp (List.pairwise_append.mp hplaced).2.1).2.1
  obtain ⟨between, after, rfl, -⟩ := hclosing.exists_append hne.2 hplacedRest hbehind
  -- so a span starts at the opening mark, and the pass does not keep that
  obtain ⟨x, opening, rfl⟩ := List.exists_cons_of_ne_nil hne.1
  have hzero := eq_zero_of_mem_keep hplaced.nodup (hsub.subset List.mem_cons_self)
  refine hspan (between.map Prod.fst) (after.map Prod.fst) ?_
  simpa using hzero

/-- What may be left of a page: a part of its characters, in their order, where every comment and block
element has a mark that was put together, and nothing more goes exactly if there is none. -/
structure Leaves (page : List Char) (left : List (Char × Nat)) : Prop where
  sublist : left.Sublist page.zipIdx
  letters : left.map Prod.fst = removeBlocks page
  joined : ∀ opening content closing, opening ++ content ++ closing <:+: left →
    IsMarkPair (opening.map Prod.fst) (closing.map Prod.fst) → ¬ (IsUncut opening ∧ IsUncut closing)
  settled_iff : removeBlocks (removeBlocks page) = removeBlocks page ↔
    ∀ span, IsBlock span → ¬ span <:+: removeBlocks page

/-- **What is left of a page**: a comment or a block element only where a deletion joined one of its marks,
and if there is none, then removing again changes nothing. -/
theorem removeBlocks_leaves (page : List Char) : Leaves page (remains page) where
  sublist := foldl_sublist keep_sublist passes page.zipIdx
  letters := map_fst_remains page
  joined := fun _ _ _ hleft hpair => not_isUncut_of_isMarkPair hpair hleft
  settled_iff := removeBlocks_eq_self_iff

/-- A script is left that the removal of another one put together, and a comment that the removal of an
element put together; removing again removes them. -/
theorem removeBlocks_joins :
    (removeBlocks "<sc<script></script>ript>x</script>".toList = "<script>x</script>".toList ∧
      IsBlock "<script>x</script>".toList ∧ removeBlocks "<script>x</script>".toList = []) ∧
    removeBlocks "<!-<svg></svg>- x -->".toList = "<!-- x -->".toList ∧
      IsBlock "<!-- x -->".toList ∧ removeBlocks "<!-- x -->".toList = [] := by
  have hscript : IsMarkPair "<script>".toList "</script>".toList :=
    @IsMarkPair.element "script".toList [] "script".toList []
      (by decide) (by simp) (by simp) rfl (by simp)
  exact ⟨⟨by decide, ⟨_, "x".toList, _, hscript, rfl⟩, by decide⟩,
    by decide, ⟨_, " x ".toList, _, .comment, rfl⟩, by decide⟩

end Remains

end Concordance.Markup
