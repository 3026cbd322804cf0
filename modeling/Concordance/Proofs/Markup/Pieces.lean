import Concordance.Markup.Block
import Concordance.Proofs.Markup.Spans

/-!
# Pages in pieces

A page is written piece by piece: texts, comments and tags. What a tag is differs with what is asked of
the page. A comment ends with the first closing mark after its opening one, which is its own: the last
characters of what is in it and the mark do not make up another one.

## Main definitions

* `Piece`: a text, a comment or a tag
* `writePage`: the pieces of a page, written one after the other

## Main results

* `exists_of_nameLength_ne_zero`: a name is found where it is written, in any case
* `isWholeSpan_comment`: a comment is found as a whole
* `removeComments_writePage`: a page without its comments
-/

namespace Concordance.Markup

/-- A piece of a page. No tag starts in a text, and a comment is not closed before its end. -/
inductive Piece (Tag : Type) where
  | text (content : List Char) (hcontent : '<' ∉ content)
  | comment (content : List Char) (hcontent : ¬ commentClosing <:+: content)
  | tag (tag : Tag)

namespace Piece

variable {Tag : Type}

/-- A piece as it is written. -/
def written (write : Tag → List Char) : Piece Tag → List Char
  | .text content _ => content
  | .comment content _ => commentOpening ++ (content ++ commentClosing)
  | .tag mark => write mark

/-- What a piece says: only texts say something. -/
def wording : Piece Tag → List Char
  | .text content _ => content
  | _ => []

/-- Whether a piece is a text. -/
def isText : Piece Tag → Bool
  | .text _ _ => true
  | _ => false

/-- Whether a piece is a comment. -/
def isComment : Piece Tag → Bool
  | .comment _ _ => true
  | _ => false

end Piece

/-- A page as it is written. -/
def writePage {Tag : Type} (write : Tag → List Char) (page : List (Piece Tag)) : List Char :=
  page.flatMap (Piece.written write)

/-- The texts of a page are what its pieces say. -/
theorem writePage_filter_isText {Tag : Type} (write : Tag → List Char) (page : List (Piece Tag)) :
    writePage write (page.filter Piece.isText) = page.flatMap Piece.wording := by
  induction page with
  | nil => rfl
  | cons piece page ih =>
    rw [List.flatMap_cons, ← ih]
    cases piece <;> simp [writePage, List.filter_cons, Piece.isText, Piece.wording, Piece.written]

/-! ## Names -/

section Names

variable {name written text : List Char}

theorem length_eq_of_map_foldLetter (h : written.map foldLetter = name) :
    written.length = name.length := by
  rw [← h, List.length_map]

theorem nameLength_append (h : written.map foldLetter = name) (rest : List Char) :
    nameLength name (written ++ rest) = written.length := by
  rw [nameLength, ← length_eq_of_map_foldLetter h, List.take_left, h, if_pos (by simp)]

theorem exists_of_nameLength_ne_zero (h : nameLength name text ≠ 0) :
    ∃ written, written <+: text ∧ written.map foldLetter = name := by
  refine ⟨text.take name.length, List.take_prefix _ _, ?_⟩
  have hbegins : name <+: (text.take name.length).map foldLetter := by
    rw [← List.isPrefixOf_iff_prefix]
    refine Decidable.byContradiction fun hnot => h ?_
    rw [nameLength, if_neg hnot]
  refine (hbegins.eq_of_length_le ?_).symm
  rw [List.length_map]
  exact List.length_take_le _ _

end Names

/-! ## Comments -/

section Comments

variable {content : List Char}

/-- The closing mark is not found before its place. -/
theorem isFreeBefore_commentClosing (h : ¬ commentClosing <:+: content) (rest : List Char) :
    IsFreeBefore (literalLength commentClosing) content (commentClosing ++ rest) := by
  intro tail htail _
  have hnone : ¬ commentClosing <+: tail ++ (commentClosing ++ rest) := by
    -- with fewer than three characters before it, the mark would have to be its own beginning
    match tail with
    | [] => contradiction
    | [a] => simp [commentClosing]
    | [a, b] => simp [commentClosing]
    | a :: b :: c :: tail =>
      intro hbegins
      have hmark : commentClosing <+: a :: b :: c :: tail :=
        List.prefix_of_prefix_length_le hbegins (List.prefix_append _ _) (by simp [commentClosing])
      exact h (hmark.isInfix.trans htail.isInfix)
  rw [literalLength, if_neg (by rwa [List.isPrefixOf_iff_prefix])]

theorem isWholeSpan_commentClosing : IsWholeSpan (literalLength commentClosing) commentClosing := by
  refine ⟨by simp [commentClosing], fun rest => ?_⟩
  rw [literalLength, if_pos (by simp)]

theorem isWholeSpan_comment (h : ¬ commentClosing <:+: content) :
    IsWholeSpan commentLength (commentOpening ++ (content ++ commentClosing)) := by
  refine ⟨by simp [commentOpening], fun rest => ?_⟩
  have hlength : lengthUntil (literalLength commentClosing) (content ++ (commentClosing ++ rest))
      = some (content.length + commentClosing.length) := by
    rw [lengthUntil_append_of_isFreeBefore (isFreeBefore_commentClosing h rest),
      isWholeSpan_commentClosing.lengthUntil_append, Option.map_some]
  rw [List.append_assoc, List.append_assoc, commentLength, if_pos (by simp)]
  have hdrop : (commentOpening ++ (content ++ (commentClosing ++ rest))).drop 4
      = content ++ (commentClosing ++ rest) := rfl
  rw [hdrop, hlength]
  simp [commentOpening]
  omega

theorem prefix_of_commentLength_ne_zero {text : List Char} (h : commentLength text ≠ 0) :
    commentOpening <+: text := by
  rw [← List.isPrefixOf_iff_prefix]
  refine Decidable.byContradiction fun hnot => h ?_
  rw [commentLength, if_neg hnot]

/-- A comment goes up to a closing mark, if there is one. -/
theorem commentLength_ne_zero_iff {text : List Char} :
    commentLength text ≠ 0 ↔
      ∃ content rest, text = commentOpening ++ (content ++ (commentClosing ++ rest)) := by
  have hinside : ∀ inside, commentLength (commentOpening ++ inside) ≠ 0 ↔
      (lengthUntil (literalLength commentClosing) inside).isSome = true := by
    intro inside
    have hdrop : (commentOpening ++ inside).drop 4 = inside := rfl
    rw [commentLength, if_pos (by simp), hdrop]
    cases lengthUntil (literalLength commentClosing) inside <;> simp
  constructor
  · intro h
    obtain ⟨inside, rfl⟩ := prefix_of_commentLength_ne_zero h
    rw [hinside, lengthUntil_isSome_iff] at h
    obtain ⟨content, after, rfl, -, hclosing⟩ := h
    have hbegins : commentClosing <+: after := by
      rw [← List.isPrefixOf_iff_prefix]
      exact Decidable.byContradiction fun hnot => hclosing (if_neg hnot)
    obtain ⟨rest, rfl⟩ := hbegins
    exact ⟨content, rest, rfl⟩
  · rintro ⟨content, rest, rfl⟩
    rw [hinside, lengthUntil_isSome_iff]
    refine ⟨content, _, rfl, by simp [commentClosing], ?_⟩
    rw [literalLength, if_pos (by simp)]
    decide

theorem commentLength_eq_zero {c : Char} (hc : c ≠ '!') (rest : List Char) :
    commentLength ('<' :: c :: rest) = 0 := by
  refine Decidable.byContradiction fun h => hc ?_
  have hbegins : "!--".toList <+: c :: rest :=
    (List.cons_prefix_cons.mp (prefix_of_commentLength_ne_zero h)).2
  exact (List.cons_prefix_cons.mp hbegins).1.symm

theorem opensWith_commentLength : OpensWith commentLength '<' := by
  intro c rest hne
  refine Decidable.byContradiction fun h => hne ?_
  exact (List.cons_prefix_cons.mp (prefix_of_commentLength_ne_zero h)).1.symm

variable {Tag : Type} {write : Tag → List Char}

/-- **A page without its comments**, where no comment starts in a tag. -/
theorem removeComments_writePage (hwrite : ∀ tag, IsFree commentLength (write tag))
    (page : List (Piece Tag)) :
    removeComments (writePage write page)
      = writePage write (page.filter fun piece => !piece.isComment) := by
  refine removeSpans_flatMap (fun piece _ hkind => ?_) (fun piece _ hkind => ?_)
  · cases piece with
    | comment content hcontent => exact isWholeSpan_comment hcontent
    | _ => contradiction
  · cases piece with
    | text content hcontent => exact opensWith_commentLength.isFree hcontent
    | tag tag => exact hwrite tag
    | comment => contradiction

end Comments

end Concordance.Markup
