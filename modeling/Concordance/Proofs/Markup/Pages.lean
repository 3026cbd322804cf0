import Concordance.Markup.Page
import Concordance.Proofs.Markup.Elements
import Concordance.Proofs.Markup.Tags

/-!
# What a page says

A page of texts, comments, plain tags and block elements says what its texts say. The comments go first,
then the elements name by name, and the tags last, each pass over what the one before has left. Every pass
takes the pieces that it is meant for, and leaves all others as they were.

## Main definitions

* `PageTag`: the tags of a page

## Main results

* `removeBlocks_writePage`: a page without its comments and elements
* `removeTags_writePage`: a page without its tags
* `pageText_writePage`: what a page says
-/

namespace Concordance.Markup

/-- A tag of a page: a plain tag or a block element. -/
inductive PageTag where
  | plain (tag : PlainTag)
  | element (block : Element)

/-- A tag of a page as it is written. -/
def PageTag.written : PageTag → List Char
  | .plain tag => tag.written
  | .element block => block.written

/-! ## The passes over a page -/

section Passes

variable {page : List (Piece PageTag)}

/-- Whether a piece is an element of a name. -/
def Piece.isElement (name : List Char) : Piece PageTag → Bool
  | .tag (.element block) => block.name == name
  | _ => false

theorem PageTag.isFree_commentLength : ∀ tag : PageTag, IsFree commentLength tag.written
  | .plain tag => tag.isFree_commentLength
  | .element block => block.isFree_commentLength

/-- A page without comments loses its elements of one name. -/
theorem removeBlocksNamed_writePage {name : List Char} (hname : name ∈ blockNames)
    (hpage : ∀ piece ∈ page, piece.isComment = false) :
    removeBlocksNamed (writePage PageTag.written page) name
      = writePage PageTag.written (page.filter fun piece => !piece.isElement name) := by
  refine removeSpans_flatMap (fun piece _ hkind => ?_) (fun piece hpiece hkind => ?_)
  · match piece with
    | .tag (.element block) =>
      rw [← beq_iff_eq.mp hkind]
      exact block.isWholeSpan
  · match piece with
    | .text content hcontent =>
      exact (startsWithBlockMark_blockLength hname).opensWith.isFree hcontent
    | .comment _ _ => exact absurd (hpage _ hpiece) (by simp [Piece.isComment])
    | .tag (.plain tag) => exact tag.isFree_blockLength hname
    | .tag (.element block) => exact block.isFree_blockLength hname (by simpa [Piece.isElement] using hkind)

/-- A page without comments loses its elements, name by name. -/
theorem foldl_removeBlocksNamed_writePage {names : List (List Char)}
    (hnames : ∀ name ∈ names, name ∈ blockNames) (hpage : ∀ piece ∈ page, piece.isComment = false) :
    names.foldl removeBlocksNamed (writePage PageTag.written page)
      = writePage PageTag.written
          (page.filter fun piece => names.all fun name => !piece.isElement name) := by
  induction names generalizing page with
  | nil =>
    simp only [List.foldl_nil, List.all_nil]
    rw [List.filter_eq_self.mpr fun _ _ => rfl]
  | cons name names ih =>
    rw [List.forall_mem_cons] at hnames
    rw [List.foldl_cons, removeBlocksNamed_writePage hnames.1 hpage, ih hnames.2, List.filter_filter]
    · simp only [List.all_cons, Bool.and_comm]
    · exact fun piece hpiece => hpage piece (List.mem_filter.mp hpiece).1

/-- Whether a piece is one that goes with its content: a comment or an element. -/
def Piece.isBlock : Piece PageTag → Bool
  | .comment _ _ => true
  | .tag (.element _) => true
  | _ => false

/-- **A page without its comments and its elements** has its texts and its plain tags left, as they were. -/
theorem removeBlocks_writePage (page : List (Piece PageTag)) :
    removeBlocks (writePage PageTag.written page)
      = writePage PageTag.written (page.filter fun piece => !piece.isBlock) := by
  rw [removeBlocks, removeComments_writePage PageTag.isFree_commentLength,
    foldl_removeBlocksNamed_writePage (fun _ => id), List.filter_filter]
  · congr 1
    refine List.filter_congr fun piece _ => ?_
    match piece with
    | .text _ _ => simp [Piece.isElement, Piece.isComment, Piece.isBlock]
    | .comment _ _ => simp [Piece.isComment, Piece.isBlock]
    | .tag (.plain _) => simp [Piece.isElement, Piece.isComment, Piece.isBlock]
    | .tag (.element block) =>
      have hname := block.name_mem
      simpa [Piece.isElement, Piece.isComment, Piece.isBlock] using hname
  · intro piece hpiece
    simpa using (List.mem_filter.mp hpiece).2

theorem PlainTag.isWholeSpan (tag : PlainTag) : IsWholeSpan tagLength tag.written :=
  measures_tagLength.isWholeSpan _ ⟨tag.body, tag.body_ne_nil, tag.not_closed, rfl⟩

/-- A page of texts and plain tags has its texts left. -/
theorem removeTags_writePage (hpage : ∀ piece ∈ page, piece.isBlock = false) :
    removeTags (writePage PageTag.written page)
      = writePage PageTag.written (page.filter Piece.isText) := by
  have hpass : removeTags (writePage PageTag.written page)
      = writePage PageTag.written (page.filter fun piece => !!piece.isText) := by
    refine removeSpans_flatMap (fun piece hpiece hkind => ?_) (fun piece _ hkind => ?_)
    · cases piece with
      | text => contradiction
      | comment => exact absurd (hpage _ hpiece) (by simp [Piece.isBlock])
      | tag tag =>
        cases tag with
        | plain tag => exact tag.isWholeSpan
        | element => exact absurd (hpage _ hpiece) (by simp [Piece.isBlock])
    · cases piece with
      | text content hcontent => exact opensWith_tagLength.isFree hcontent
      | comment => contradiction
      | tag => contradiction
  simpa using hpass

/-- **What a page says.** A page of texts, comments, plain tags and block elements, in any order and number
and side by side, says what its texts say one after the other, with their references decoded. -/
theorem pageText_writePage (page : List (Piece PageTag)) :
    pageText (writePage PageTag.written page) = decodeReferences (page.flatMap Piece.wording) := by
  have hunblocked : ∀ piece ∈ page.filter (fun piece => !piece.isBlock), piece.isBlock = false :=
    fun piece hpiece => by simpa using (List.mem_filter.mp hpiece).2
  have htexts : (page.filter fun piece => !piece.isBlock).filter Piece.isText
      = page.filter Piece.isText := by
    rw [List.filter_filter]
    refine List.filter_congr fun piece _ => ?_
    match piece with
    | .text _ _ | .comment _ _ | .tag (.plain _) | .tag (.element _) => rfl
  rw [pageText, removeBlocks_writePage, removeTags_writePage hunblocked, htexts,
    writePage_filter_isText]

/-- A comment with an element in it, a plain tag whose name only begins with that of a block, a bracket in a
text and one in an element, and a name with a long s. -/
theorem pageText_writePage_script :
    let header : PlainTag := ⟨"header a='1'".toList, by decide, by decide, by decide, by decide, by decide⟩
    let script : Element := {
      opening := "ſcript".toList
      attributes := " type=a/".toList
      content := "if (a<b) '</p>'\n<!-".toList
      closing := "SCRIPT".toList
      blanks := "\n".toList
      opening_mem := by decide
      attributes_start := by rintro _ ⟨⟩; rfl
      attributes_not_opened := by decide
      attributes_not_closed := by decide
      content_free := not_infix_of_forall_mem_inits (by decide +kernel)
      closing_eq := by decide
      blanks_white := List.forall_mem_singleton.mpr rfl }
    let page : List (Piece PageTag) := [.text "Fish".toList (by decide),
      .comment "<script>-".toList (by decide +kernel), .tag (.plain header), .text " > ".toList (by decide),
      .tag (.element script), .text "&amp; chips".toList (by decide)]
    writePage PageTag.written page = ("Fish<!--<script>---><header a='1'> > <ſcript type=a/>" ++
        "if (a<b) '</p>'\n<!-</SCRIPT\n>&amp; chips").toList ∧
      pageText (writePage PageTag.written page) = "Fish > & chips".toList := by
  intro header script page
  refine ⟨rfl, ?_⟩
  rw [pageText_writePage page]
  rfl

end Passes

end Concordance.Markup
