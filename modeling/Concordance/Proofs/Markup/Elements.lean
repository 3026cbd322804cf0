import Concordance.Markup.Block
import Concordance.Proofs.Markup.Pieces
import Concordance.Proofs.Text.Chunks
import Mathlib.Data.List.Infix

/-!
# Plain tags and block elements

An element is known by the name after its first bracket. As no block name is the beginning of another one,
and neither a comment nor a tag of a block starts in its content, an element is found by its own name as
far as it was written, and by no other name. A tag that has none of these names starts no element.

## Main definitions

* `IsBlockMark`: what makes a bracket the start of a comment or of a tag of a block
* `PlainTag`: a tag that is no comment and has no block name
* `Element`: a block element

## Main results

* `PlainTag.isFree_commentLength`, `PlainTag.isFree_blockLength`: nothing starts in a plain tag
* `Element.isFree_commentLength`, `Element.isFree_blockLength`: no comment and no other element starts in an
  element
* `Element.isWholeSpan`: an element is found as a whole
-/

namespace Concordance.Markup

open Text (isWhiteSpace)

/-! ## Names -/

section Names

variable {written : List Char}

/-- A block name has letters only. -/
theorem isLower_foldLetter (h : written.map foldLetter ∈ blockNames) {c : Char} (hc : c ∈ written) :
    (foldLetter c).isLower = true := by
  have hletters : ∀ name ∈ blockNames, name.all Char.isLower = true := by decide
  exact List.all_eq_true.mp (hletters _ h) _ (List.mem_map_of_mem hc)

/-- The characters of tags and comments are none of a block name. -/
theorem ne_of_map_foldLetter_mem (h : written.map foldLetter ∈ blockNames) {c d : Char}
    (hc : c ∈ written) (hd : (foldLetter d).isLower = false) : c ≠ d := by
  rintro rfl
  rw [isLower_foldLetter h hc] at hd
  cases hd

theorem isWhiteSpace_of_map_foldLetter_mem (h : written.map foldLetter ∈ blockNames) {c : Char}
    (hc : c ∈ written) : isWhiteSpace c = false := by
  refine Bool.eq_false_iff.mpr fun hspace => ?_
  have hnone : (foldLetter c).isLower = false :=
    Text.forall_isWhiteSpace (p := fun c => (foldLetter c).isLower = false) (by decide +kernel) hspace
  exact ne_of_map_foldLetter_mem h hc hnone rfl

theorem ne_nil_of_mem_blockNames : ∀ name ∈ blockNames, name ≠ [] := by decide

theorem exists_cons_of_map_foldLetter_mem (h : written.map foldLetter ∈ blockNames) :
    ∃ c rest, written = c :: rest ∧ c ≠ '/' ∧ c ≠ '!' := by
  obtain ⟨c, rest, rfl⟩ : ∃ c rest, written = c :: rest :=
    List.exists_cons_of_ne_nil fun hnil => ne_nil_of_mem_blockNames _ h (by simp [hnil])
  exact ⟨c, rest, rfl, ne_of_map_foldLetter_mem h List.mem_cons_self (by decide),
    ne_of_map_foldLetter_mem h List.mem_cons_self (by decide)⟩

/-- No block name is the beginning of another one. -/
theorem eq_of_prefix_of_mem_blockNames :
    ∀ name ∈ blockNames, ∀ other ∈ blockNames, name <+: other → name = other := by decide

end Names

/-! ## Opening and closing tags -/

section Brackets

variable {name written text : List Char}

theorem openingLength_of_tag {attributes : List Char} (hne : name ≠ [])
    (hname : written.map foldLetter = name)
    (hstart : ∀ c ∈ attributes.head?, isWhiteSpace c = true) (hclosed : '>' ∉ attributes)
    (rest : List Char) :
    openingLength name ('<' :: (written ++ (attributes ++ '>' :: rest)))
      = written.length + attributes.length + 2 := by
  have hlength := length_eq_of_map_foldLetter hname
  have hpos : name.length ≠ 0 := fun hzero => hne (List.length_eq_zero_iff.mp hzero)
  have hdrop : (written ++ (attributes ++ '>' :: rest)).drop name.length = attributes ++ '>' :: rest :=
    List.drop_left' hlength
  have hwhile : lengthWhile (· != '>') (attributes ++ '>' :: rest) = attributes.length :=
    lengthWhile_append_cons (fun c hc => bne_iff_ne.mpr (ne_of_mem_of_not_mem hc hclosed)) rfl rest
  simp only [openingLength, nameLength_append hname, hlength, if_neg hpos, hdrop, hwhile]
  cases attributes with
  | nil => simp; omega
  | cons c attributes => simp [hstart c rfl]; omega

theorem exists_of_openingLength_ne_zero (h : openingLength name text ≠ 0) :
    ∃ written c rest, text = '<' :: (written ++ c :: rest) ∧ written.map foldLetter = name ∧
      (c = '>' ∨ isWhiteSpace c = true) := by
  unfold openingLength at h
  split at h
  · rename_i rest
    have hlength : nameLength name rest ≠ 0 := fun hzero => h (if_pos hzero)
    obtain ⟨written, ⟨more, rfl⟩, hname⟩ := exists_of_nameLength_ne_zero hlength
    have hdrop : (written ++ more).drop name.length = more :=
      List.drop_left' (length_eq_of_map_foldLetter hname)
    simp only [if_neg hlength, hdrop] at h
    cases more with
    | nil => exact absurd rfl h
    | cons c more =>
      refine ⟨written, c, more, rfl, hname, ?_⟩
      exact Decidable.byContradiction fun hnot => h (if_neg fun hboth => hnot hboth.1)
  · exact absurd rfl h

theorem closingLength_of_tag {blanks : List Char} (hne : name ≠ [])
    (hname : written.map foldLetter = name) (hblanks : ∀ c ∈ blanks, isWhiteSpace c = true)
    (rest : List Char) :
    closingLength name ('<' :: '/' :: (written ++ (blanks ++ '>' :: rest)))
      = written.length + blanks.length + 3 := by
  have hlength := length_eq_of_map_foldLetter hname
  have hpos : name.length ≠ 0 := fun hzero => hne (List.length_eq_zero_iff.mp hzero)
  have hdrop : (written ++ (blanks ++ '>' :: rest)).drop name.length = blanks ++ '>' :: rest :=
    List.drop_left' hlength
  have hwhile : lengthWhile isWhiteSpace (blanks ++ '>' :: rest) = blanks.length :=
    lengthWhile_append_cons hblanks (by decide) rest
  simp only [closingLength, nameLength_append hname, hlength, if_neg hpos, hdrop, hwhile,
    List.drop_left, List.head?_cons, if_true]
  omega

theorem exists_of_closingLength_ne_zero (h : closingLength name text ≠ 0) :
    ∃ written, '<' :: '/' :: written <+: text ∧ written.map foldLetter = name := by
  unfold closingLength at h
  split at h
  · rename_i rest
    have hlength : nameLength name rest ≠ 0 := fun hzero => h (if_pos hzero)
    obtain ⟨written, hbegins, hname⟩ := exists_of_nameLength_ne_zero hlength
    exact ⟨written, by simpa using hbegins, hname⟩
  · exact absurd rfl h

/-- An opening tag goes up to the first closing bracket. -/
theorem exists_tag_of_openingLength_ne_zero (h : openingLength name text ≠ 0) :
    ∃ opening attributes rest, text = '<' :: (opening ++ (attributes ++ '>' :: rest)) ∧
      opening.map foldLetter = name ∧ (∀ c ∈ attributes.head?, isWhiteSpace c = true) ∧
      '>' ∉ attributes := by
  obtain ⟨opening, c, after, rfl, hname, hc⟩ := exists_of_openingLength_ne_zero h
  have hclosed : '>' ∈ c :: after := by
    -- else the search for the end of the tag runs through the whole text
    refine Decidable.byContradiction fun hnot => h ?_
    have hdrop : (opening ++ c :: after).drop name.length = c :: after :=
      List.drop_left' (length_eq_of_map_foldLetter hname)
    have hwhile : lengthWhile (· != '>') (c :: after) = (c :: after).length := by
      rw [lengthWhile_eq, List.takeWhile_eq_self_iff.mpr]
      exact fun d hd => bne_iff_ne.mpr (ne_of_mem_of_not_mem hd hnot)
    simp only [openingLength, hdrop, hwhile, Nat.lt_irrefl, and_false, if_false, ite_self]
  obtain ⟨attributes, rest, heq, hfirst⟩ := List.eq_append_cons_of_mem hclosed
  refine ⟨opening, attributes, rest, by rw [heq], hname, fun d hd => ?_, hfirst⟩
  obtain ⟨more, rfl⟩ := List.head?_eq_some_iff.mp hd
  obtain rfl : c = d := (List.cons.inj heq).1
  exact hc.resolve_left fun hbracket => hfirst (hbracket ▸ List.mem_cons_self)

theorem exists_tag_of_closingLength_ne_zero (h : closingLength name text ≠ 0) :
    ∃ closing blanks rest, text = '<' :: '/' :: (closing ++ (blanks ++ '>' :: rest)) ∧
      closing.map foldLetter = name ∧ ∀ c ∈ blanks, isWhiteSpace c = true := by
  obtain ⟨closing, ⟨after, rfl⟩, hname⟩ := exists_of_closingLength_ne_zero h
  have hdrop : (closing ++ after).drop name.length = after :=
    List.drop_left' (length_eq_of_map_foldLetter hname)
  have hend : (after.dropWhile isWhiteSpace).head? = some '>' := by
    refine Decidable.byContradiction fun hnot => h ?_
    rw [← drop_lengthWhile] at hnot
    simp only [List.cons_append, closingLength, hdrop, if_neg hnot, ite_self]
  obtain ⟨rest, hrest⟩ := List.head?_eq_some_iff.mp hend
  refine ⟨closing, after.takeWhile isWhiteSpace, rest, ?_, hname, fun c => List.mem_takeWhile_imp⟩
  rw [← hrest, List.takeWhile_append_dropWhile]
  rfl

end Brackets

/-! ## Tags and elements -/

/-- What makes an opening bracket the start of a comment, or of an opening or closing tag of a block. -/
inductive IsBlockMark : List Char → Prop
  | comment : IsBlockMark commentOpening
  | opening {written : List Char} (h : written.map foldLetter ∈ blockNames) :
      IsBlockMark ('<' :: written)
  | closing {written : List Char} (h : written.map foldLetter ∈ blockNames) :
      IsBlockMark ('<' :: '/' :: written)

instance : DecidablePred IsBlockMark := fun mark =>
  decidable_of_iff (mark = commentOpening ∨
      (mark.head? = some '<' ∧ blockNames.contains ((mark.drop 1).map foldLetter) = true) ∨
      (mark.take 2 = ['<', '/'] ∧ blockNames.contains ((mark.drop 2).map foldLetter) = true)) <| by
    simp only [List.contains_iff_mem]
    constructor
    · rintro (rfl | ⟨hhead, hname⟩ | ⟨htake, hname⟩)
      · exact .comment
      · obtain ⟨written, rfl⟩ := List.head?_eq_some_iff.mp hhead
        exact .opening hname
      · rw [← List.take_append_drop 2 mark, htake]
        exact .closing hname
    · rintro (_ | hname | hname)
      · exact .inl rfl
      · exact .inr (.inl ⟨rfl, hname⟩)
      · exact .inr (.inr ⟨rfl, hname⟩)

/-- Whether there is a mark in a text is found by going through its parts. -/
theorem not_infix_of_forall_mem_inits {content : List Char}
    (h : ∀ tail ∈ content.tails, ∀ mark ∈ tail.inits, ¬ IsBlockMark mark) (mark : List Char)
    (hmark : IsBlockMark mark) : ¬ mark <:+: content := by
  intro hinfix
  obtain ⟨tail, hbegins, hsuffix⟩ := List.infix_iff_prefix_suffix.mp hinfix
  exact h tail ((List.mem_tails _ _).mpr hsuffix) mark ((List.mem_inits _ _).mpr hbegins) hmark

/-- The name in a tag: what stands up to the first white space or slash, after a slash that the tag may
start with. -/
def tagName (body : List Char) : List Char :=
  let named := match body with
    | '/' :: rest => rest
    | _ => body
  named.takeWhile fun c => !isWhiteSpace c && c != '/'

/-- A tag that is no comment and has no block name. -/
structure PlainTag where
  body : List Char
  body_ne_nil : body ≠ []
  not_opened : '<' ∉ body
  not_closed : '>' ∉ body
  not_comment : ¬ "!--".toList <+: body
  not_block : (tagName body).map foldLetter ∉ blockNames

/-- A plain tag as it is written. -/
def PlainTag.written (tag : PlainTag) : List Char :=
  '<' :: (tag.body ++ ['>'])

/-- A block element: an opening tag, which may have attributes after white space, a content, and a closing
tag with the same name. No comment starts in the content, and no tag of a block. -/
structure Element where
  opening : List Char
  attributes : List Char
  content : List Char
  closing : List Char
  blanks : List Char
  opening_mem : opening.map foldLetter ∈ blockNames
  attributes_start : ∀ c ∈ attributes.head?, isWhiteSpace c = true
  attributes_not_opened : '<' ∉ attributes
  attributes_not_closed : '>' ∉ attributes
  content_free : ∀ mark, IsBlockMark mark → ¬ mark <:+: content
  closing_eq : closing.map foldLetter = opening.map foldLetter
  blanks_white : ∀ c ∈ blanks, isWhiteSpace c = true

namespace Element

variable (element : Element)

/-- The name of an element, without its case. -/
def name : List Char :=
  element.opening.map foldLetter

/-- The opening tag of an element. -/
def openingTag : List Char :=
  '<' :: (element.opening ++ (element.attributes ++ ['>']))

/-- The closing tag of an element. -/
def closingTag : List Char :=
  '<' :: '/' :: (element.closing ++ (element.blanks ++ ['>']))

/-- An element as it is written. -/
def written : List Char :=
  element.openingTag ++ (element.content ++ element.closingTag)

end Element

/-! ## Where comments and elements start -/

section Starts

variable {name text : List Char}

/-- Spans that start with a mark of blocks, which is where an opening bracket is. -/
def StartsWithBlockMark (spanLength : List Char → Nat) : Prop :=
  ∀ text, spanLength text ≠ 0 → ∃ mark, IsBlockMark mark ∧ mark <+: text

theorem IsBlockMark.exists_word {mark : List Char} (h : IsBlockMark mark) :
    ∃ word, mark = '<' :: word ∧ '<' ∉ word := by
  cases h with
  | comment => exact ⟨"!--".toList, rfl, by decide⟩
  | opening hname => exact ⟨_, rfl, fun hmem => ne_of_map_foldLetter_mem hname hmem (by decide) rfl⟩
  | closing hname =>
    refine ⟨_, rfl, fun hmem => ?_⟩
    rcases List.mem_cons.mp hmem with heq | hmem
    · exact absurd heq (by decide)
    · exact ne_of_map_foldLetter_mem hname hmem (by decide) rfl

theorem startsWithBlockMark_commentLength : StartsWithBlockMark commentLength :=
  fun _ h => ⟨commentOpening, .comment, prefix_of_commentLength_ne_zero h⟩

theorem openingLength_ne_zero (h : blockLength name text ≠ 0) : openingLength name text ≠ 0 := by
  intro hzero
  simp [blockLength, hzero] at h

theorem startsWithBlockMark_blockLength (hname : name ∈ blockNames) :
    StartsWithBlockMark (blockLength name) := by
  intro text h
  obtain ⟨written, c, rest, rfl, heq, -⟩ :=
    exists_of_openingLength_ne_zero (openingLength_ne_zero h)
  exact ⟨'<' :: written, .opening (heq ▸ hname), by simp⟩

theorem startsWithBlockMark_closingLength (hname : name ∈ blockNames) :
    StartsWithBlockMark (closingLength name) := by
  intro text h
  obtain ⟨written, hbegins, heq⟩ := exists_of_closingLength_ne_zero h
  exact ⟨_, .closing (heq ▸ hname), hbegins⟩

theorem StartsWithBlockMark.opensWith {spanLength : List Char → Nat}
    (h : StartsWithBlockMark spanLength) : OpensWith spanLength '<' := by
  intro c rest hne
  refine Decidable.byContradiction fun hspan => hne ?_
  obtain ⟨mark, hmark, hbegins⟩ := h _ hspan
  obtain ⟨word, rfl, -⟩ := hmark.exists_word
  exact (List.cons_prefix_cons.mp hbegins).1.symm

/-- In the content of an element no span starts, also not one that goes on in the closing tag. -/
theorem Element.isFreeBefore_content (element : Element) {spanLength : List Char → Nat}
    (h : StartsWithBlockMark spanLength) (rest : List Char) :
    IsFreeBefore spanLength element.content (element.closingTag ++ rest) := by
  intro tail htail hne
  refine Decidable.byContradiction fun hspan => ?_
  obtain ⟨mark, hmark, hbegins⟩ := h _ hspan
  obtain ⟨word, rfl, hword⟩ := hmark.exists_word
  obtain ⟨c, tail, rfl⟩ := List.exists_cons_of_ne_nil hne
  rw [List.cons_append, List.cons_prefix_cons] at hbegins
  -- the mark has no bracket after its first character, so it ends before the closing tag
  have hinside : '<' :: word <+: c :: tail :=
    List.cons_prefix_cons.mpr ⟨hbegins.1, prefix_of_prefix_append_cons hbegins.2 hword⟩
  exact element.content_free _ hmark (hinside.isInfix.trans htail.isInfix)

/-- An element has no span in it if its two tags have none. -/
theorem Element.isFree (element : Element) {spanLength : List Char → Nat}
    (h : StartsWithBlockMark spanLength) (hopening : IsFree spanLength element.openingTag)
    (hclosing : IsFree spanLength element.closingTag) : IsFree spanLength element.written :=
  fun rest => (hopening _).append ((element.isFreeBefore_content h rest).append (hclosing rest))

end Starts

/-! ## Tags and elements in which nothing starts -/

section Free

variable {name : List Char}

theorem PlainTag.isFree_of_here (tag : PlainTag) {spanLength : List Char → Nat}
    (h : OpensWith spanLength '<')
    (hhere : ∀ rest, spanLength ('<' :: (tag.body ++ '>' :: rest)) = 0) :
    IsFree spanLength tag.written :=
  h.isFree_cons (by simp [tag.not_opened]) (by simpa using hhere)

theorem PlainTag.isFree_commentLength (tag : PlainTag) : IsFree commentLength tag.written := by
  refine tag.isFree_of_here opensWith_commentLength fun rest => ?_
  refine Decidable.byContradiction fun h => tag.not_comment ?_
  have hbegins : "!--".toList <+: tag.body ++ '>' :: rest :=
    (List.cons_prefix_cons.mp (prefix_of_commentLength_ne_zero h)).2
  exact prefix_of_prefix_append_cons hbegins (by decide)

/-- The name in a tag is a block name where that stands before white space or the end. -/
theorem tagName_append {written more : List Char} (hname : written.map foldLetter ∈ blockNames)
    (hmore : ∀ c ∈ more.head?, isWhiteSpace c = true) :
    tagName (written ++ more) = written := by
  have hnamed : ∀ c ∈ written, (!isWhiteSpace c && c != '/') = true := by
    intro c hc
    have hslash : c ≠ '/' := ne_of_map_foldLetter_mem hname hc (by decide)
    simp [hslash, isWhiteSpace_of_map_foldLetter_mem hname hc]
  have hend : more.takeWhile (fun c => !isWhiteSpace c && c != '/') = [] := by
    cases more with
    | nil => rfl
    | cons c more => simp [hmore c rfl]
  obtain ⟨c, rest, rfl, hslash, -⟩ := exists_cons_of_map_foldLetter_mem hname
  have hself : tagName (c :: rest ++ more)
      = (c :: rest ++ more).takeWhile fun c => !isWhiteSpace c && c != '/' := by
    simp [tagName, hslash]
  rw [hself, List.takeWhile_append_of_pos hnamed, hend, List.append_nil]

theorem PlainTag.isFree_blockLength (tag : PlainTag) (hname : name ∈ blockNames) :
    IsFree (blockLength name) tag.written := by
  refine tag.isFree_of_here (startsWithBlockMark_blockLength hname).opensWith fun rest => ?_
  refine Decidable.byContradiction fun h => tag.not_block ?_
  obtain ⟨written, c, after, heq, hwritten, hc⟩ :=
    exists_of_openingLength_ne_zero (openingLength_ne_zero h)
  have hmem : written.map foldLetter ∈ blockNames := hwritten ▸ hname
  have hbody : tag.body ++ '>' :: rest = written ++ c :: after := (List.cons.inj heq).2
  obtain ⟨more, hmore⟩ : written <+: tag.body :=
    prefix_of_prefix_append_cons ⟨c :: after, hbody.symm⟩
      fun hclosed => ne_of_map_foldLetter_mem hmem hclosed (by decide) rfl
  rw [← hmore, List.append_assoc, List.append_cancel_left_eq] at hbody
  -- behind the name there is white space, or the tag is over, so it is the name of the tag
  rw [← hmore, tagName_append hmem]
  · exact hmem
  · intro d hd
    obtain ⟨more, rfl⟩ := List.head?_eq_some_iff.mp hd
    obtain rfl : d = c := (List.cons.inj hbody).1
    rcases hc with rfl | hspace
    · exact absurd (by simp [← hmore]) tag.not_closed
    · exact hspace

/-- In a tag of an element a span can start only where the tag does. -/
theorem Element.isFree_openingTag (element : Element) {spanLength : List Char → Nat}
    (h : OpensWith spanLength '<')
    (hhere : ∀ rest, spanLength ('<' :: (element.opening ++ rest)) = 0) :
    IsFree spanLength element.openingTag := by
  refine h.isFree_cons ?_ fun rest => ?_
  · have hname : '<' ∉ element.opening :=
      fun hmem => ne_of_map_foldLetter_mem element.opening_mem hmem (by decide) rfl
    simp [hname, element.attributes_not_opened]
  · simpa using hhere _

theorem Element.isFree_closingTag (element : Element) {spanLength : List Char → Nat}
    (h : OpensWith spanLength '<') (hhere : ∀ rest, spanLength ('<' :: '/' :: rest) = 0) :
    IsFree spanLength element.closingTag := by
  refine h.isFree_cons ?_ fun rest => ?_
  · have hname : '<' ∉ element.closing := by
      refine fun hmem => ne_of_map_foldLetter_mem ?_ hmem (by decide) rfl
      exact element.closing_eq ▸ element.opening_mem
    have hblanks : '<' ∉ element.blanks :=
      fun hmem => absurd (element.blanks_white _ hmem) (by decide)
    simp [hname, hblanks]
  · exact hhere _

theorem Element.isFree_commentLength (element : Element) : IsFree commentLength element.written := by
  obtain ⟨c, opening, heq, -, hmark⟩ := exists_cons_of_map_foldLetter_mem element.opening_mem
  refine element.isFree startsWithBlockMark_commentLength
    (element.isFree_openingTag opensWith_commentLength fun rest => ?_)
    (element.isFree_closingTag opensWith_commentLength fun rest => ?_)
  · rw [heq]
    exact commentLength_eq_zero hmark _
  · exact commentLength_eq_zero (by decide) _

theorem Element.isFree_blockLength (element : Element) (hname : name ∈ blockNames)
    (hne : element.name ≠ name) : IsFree (blockLength name) element.written := by
  have hopens := (startsWithBlockMark_blockLength hname).opensWith
  refine element.isFree (startsWithBlockMark_blockLength hname)
    (element.isFree_openingTag hopens fun rest => ?_)
    (element.isFree_closingTag hopens fun rest => ?_)
  · refine Decidable.byContradiction fun h => hne ?_
    obtain ⟨written, c, after, heq, hwritten, -⟩ :=
      exists_of_openingLength_ne_zero (openingLength_ne_zero h)
    -- of two names at the start of a text, one is the beginning of the other
    have hown : element.name <+: (element.opening ++ rest).map foldLetter := by
      rw [List.map_append]
      exact List.prefix_append _ _
    have hother : name <+: (element.opening ++ rest).map foldLetter := by
      rw [(List.cons.inj heq).2, List.map_append, hwritten]
      exact List.prefix_append _ _
    rcases List.prefix_or_prefix_of_prefix hown hother with hbegins | hbegins
    · exact eq_of_prefix_of_mem_blockNames _ element.opening_mem _ hname hbegins
    · exact (eq_of_prefix_of_mem_blockNames _ hname _ element.opening_mem hbegins).symm
  · refine Decidable.byContradiction fun h => ?_
    obtain ⟨written, c, after, heq, hwritten, -⟩ :=
      exists_of_openingLength_ne_zero (openingLength_ne_zero h)
    -- where the name would have to start there is a slash
    obtain ⟨d, more, rfl, hslash, -⟩ := exists_cons_of_map_foldLetter_mem (hwritten ▸ hname)
    exact hslash (List.cons.inj (List.cons.inj heq).2).1.symm

end Free

/-! ## An element is found as a whole -/

section Whole

variable (element : Element)

theorem Element.name_mem : element.name ∈ blockNames :=
  element.opening_mem

theorem Element.name_ne_nil : element.name ≠ [] :=
  ne_nil_of_mem_blockNames _ element.name_mem

theorem Element.openingLength_append (rest : List Char) :
    openingLength element.name (element.openingTag ++ rest) = element.openingTag.length := by
  have hlength := openingLength_of_tag element.name_ne_nil rfl element.attributes_start
    element.attributes_not_closed rest
  simpa [openingTag, Nat.add_assoc] using hlength

theorem Element.isWholeSpan_closingTag :
    IsWholeSpan (closingLength element.name) element.closingTag := by
  refine ⟨List.cons_ne_nil _ _, fun rest => ?_⟩
  have hlength := closingLength_of_tag element.name_ne_nil element.closing_eq element.blanks_white rest
  simpa [closingTag, Nat.add_assoc] using hlength

/-- An element runs from its opening tag to the first closing tag behind it, which is its own. -/
theorem Element.isWholeSpan : IsWholeSpan (blockLength element.name) element.written := by
  refine ⟨List.cons_ne_nil _ _, fun rest => ?_⟩
  have huntil : lengthUntil (closingLength element.name)
      (element.content ++ (element.closingTag ++ rest))
        = some (element.content.length + element.closingTag.length) := by
    rw [lengthUntil_append_of_isFreeBefore (element.isFreeBefore_content
        (startsWithBlockMark_closingLength element.name_mem) rest),
      element.isWholeSpan_closingTag.lengthUntil_append, Option.map_some]
  have hopening := element.openingLength_append (element.content ++ (element.closingTag ++ rest))
  -- the match on the length of the opening tag is taken, as that is not zero
  obtain ⟨more, hmore⟩ : ∃ more, element.openingTag.length = more + 1 := ⟨_, List.length_cons⟩
  rw [written, List.append_assoc, List.append_assoc, blockLength, hopening, hmore]
  simp only
  rw [← hmore, List.drop_left, huntil]
  simp

end Whole

end Concordance.Markup
