import Concordance.Crawl.Link
import Concordance.Proofs.Markup.Anchors
import Mathlib.Data.List.Basic

/-!
# Links of a page

The links of a page are where the targets of its anchors lead. A target is found at the first attribute
whose name ends in `href`, so it is that of the attribute named `href` where no longer name before it ends
so.

## Main definitions

* `destination`: where a value leads
* `destinations`: where the attributes of a kind lead, on a page of texts, comments and anchors

## Main results

* `pageLinks_writePage`: the links of a page
* `pageLinks_ne_destinations`: two pages whose links are not those of their `href` attributes
-/

namespace Concordance.Crawl

open Markup

/-- Where a value leads: it is joined to the URL of its page, without the white space at its ends and with
its references decoded. Only pages of the web are led to, and without a fragment. -/
def destination (base : Url) (value : List Char) : Option Url := do
  let url ← (base.join (String.ofList (decodeReferences (Text.trim value)))).toOption
  if url.scheme = "http" ∨ url.scheme = "https" then some url.withoutFragment else none

/-- Where the anchors of a page lead by their first attributes of a kind: in the order of the page, and each
place at its first one only. -/
def destinations (base : Url) (kind : Attribute → Bool) (page : List (Piece AnchorTag)) : List Url :=
  ((page.filterMap (Piece.valueOf kind)).filterMap (destination base)).eraseDups

variable {base : Url} {page : List (Piece AnchorTag)}

theorem resolveTarget_eq_destination (base : Url) : resolveTarget base = destination base := by
  funext value
  unfold resolveTarget destination
  cases base.join (String.ofList (decodeReferences (Text.trim value))) with
  | error _ => rfl
  | ok url => simp [Except.toOption, Url.isWeb]

/-- Where no longer name before it ends in `href`, the first name that ends so is `href`. -/
theorem find?_endsInHref {attributes : List Attribute}
    (h : ∀ a ∈ attributes.takeWhile fun a => !a.isHref, a.endsInHref = false) :
    attributes.find? Attribute.endsInHref = attributes.find? Attribute.isHref := by
  induction attributes with
  | nil => rfl
  | cons a attributes ih =>
    cases hhref : a.isHref with
    | true => simp [hhref, Attribute.endsInHref_of_isHref hhref]
    | false =>
      rw [List.takeWhile_cons_of_pos (by simp [hhref]), List.forall_mem_cons] at h
      rw [List.find?_cons_of_neg (by simp [h.1]), List.find?_cons_of_neg (by simp [hhref]), ih h.2]

/-- **The links of a page**, where no value before a target holds an `href`: they are where the anchors lead
by their first attributes whose names end in `href`. Where no longer name that ends so stands before the
attribute named `href`, that is where the `href` attributes lead. Comments and all other attributes give no
links. -/
theorem pageLinks_writePage (hvalues : ∀ tag, .tag tag ∈ page → tag.IsClear) :
    pageLinks base (String.ofList (writePage AnchorTag.written page))
        = destinations base Attribute.endsInHref page ∧
      ((∀ attributes, .tag (.opening attributes) ∈ page →
          ∀ a ∈ attributes.takeWhile fun a => !a.isHref, a.endsInHref = false) →
        pageLinks base (String.ofList (writePage AnchorTag.written page))
          = destinations base Attribute.isHref page) := by
  have hlinks : pageLinks base (String.ofList (writePage AnchorTag.written page))
      = destinations base Attribute.endsInHref page := by
    rw [pageLinks, String.toList_ofList, targets_writePage hvalues, resolveTarget_eq_destination,
      destinations]
  refine ⟨hlinks, fun hnames => ?_⟩
  have hsame : page.filterMap (Piece.valueOf Attribute.endsInHref)
      = page.filterMap (Piece.valueOf Attribute.isHref) := by
    refine List.filterMap_congr fun piece hpiece => ?_
    match piece with
    | .text _ _ | .comment _ _ | .tag .closing => rfl
    | .tag (.opening attributes) =>
      exact congrArg (Option.map Attribute.value) (find?_endsInHref (hnames attributes hpiece))
  rw [hlinks, destinations, hsame, destinations]

/-- An anchor in a comment; one with a longer name and with its target in capitals, with white space, a
reference and a fragment; the same place again; a place that is no page; and an anchor without a target. -/
theorem pageLinks_writePage_comment :
    let lang : Attribute := ⟨" ".toList, "hreflang".toList, '"', "href".toList,
      by decide, List.forall_mem_singleton.mpr rfl, by simp, by decide, by simp⟩
    let top : Attribute := ⟨"\n".toList, "HREF".toList, '\'', " /top?a&amp;b=1#c ".toList,
      by decide, List.forall_mem_singleton.mpr rfl, by simp, by decide, by simp⟩
    let again : Attribute := ⟨" ".toList, "href".toList, '"', "../top?a&b=1".toList,
      by decide, List.forall_mem_singleton.mpr rfl, by simp, by decide, by simp⟩
    let mail : Attribute := ⟨" ".toList, "href".toList, '"', "mailto:a@a.test".toList,
      by decide, List.forall_mem_singleton.mpr rfl, by simp, by decide, by simp⟩
    let page : List (Piece AnchorTag) := [.comment "<a href='x'>".toList (by decide +kernel),
      .tag (.opening [lang, top]), .text "href='y'".toList (by decide), .tag .closing,
      .tag (.opening [again, lang]), .tag (.opening [mail]), .tag (.opening [lang])]
    let site (segments : List String) (query : Option String) : Url :=
      ⟨"http", some ⟨"", "", .name "a.test", none⟩, .segments segments, query, none⟩
    let base := site ["docs", "index"] none
    (∀ tag, .tag tag ∈ page → tag.IsClear) ∧
      (∀ attributes, .tag (.opening attributes) ∈ page →
        ∀ a ∈ attributes.takeWhile fun a => !a.isHref, a.endsInHref = false) ∧
      pageLinks base (String.ofList (writePage AnchorTag.written page))
        = destinations base Attribute.isHref page ∧
      destinations base Attribute.isHref page = [site ["top"] (some "a&b=1")] := by
  intro lang top again mail page site base
  have hlang : ¬ lang.HoldsHref := Attribute.not_holdsHref (by decide)
  have hclear : ∀ tag, .tag tag ∈ page → tag.IsClear := by
    intro tag htag
    simp only [page, List.mem_cons, List.not_mem_nil, or_false, false_or, reduceCtorEq,
      Piece.tag.injEq] at htag
    rcases htag with rfl | rfl | rfl | rfl | rfl
    · exact List.forall_mem_singleton.mpr hlang
    · trivial
    · exact List.forall_mem_nil _
    · exact List.forall_mem_nil _
    · exact List.forall_mem_singleton.mpr hlang
  have hnames : ∀ attributes, .tag (.opening attributes) ∈ page →
      ∀ a ∈ attributes.takeWhile fun a => !a.isHref, a.endsInHref = false := by
    intro attributes htag
    simp only [page, List.mem_cons, List.not_mem_nil, or_false, false_or, reduceCtorEq,
      Piece.tag.injEq, AnchorTag.opening.injEq] at htag
    rcases htag with rfl | rfl | rfl | rfl
    · exact List.forall_mem_singleton.mpr rfl
    · exact List.forall_mem_nil _
    · exact List.forall_mem_nil _
    · exact List.forall_mem_singleton.mpr rfl
  exact ⟨hclear, hnames, (pageLinks_writePage hclear).2 hnames, by decide +kernel⟩

/-- A longer name before the `href` is taken for it, and so is the end of a value before it: the closing
quote of that value then opens the target. Both pages lead elsewhere by their `href`. -/
theorem pageLinks_ne_destinations :
    let target : Attribute := ⟨" ".toList, "href".toList, '"', "b".toList,
      by decide, List.forall_mem_singleton.mpr rfl, by simp, by decide, by simp⟩
    let stored : Attribute := ⟨" ".toList, "data-href".toList, '"', "a".toList,
      by decide, List.forall_mem_singleton.mpr rfl, by simp, by decide, by simp⟩
    let title : Attribute := ⟨" ".toList, "title".toList, '"', "href=".toList,
      by decide, List.forall_mem_singleton.mpr rfl, by simp, by decide, by simp⟩
    let longer : List (Piece AnchorTag) := [.tag (.opening [stored, target])]
    let held : List (Piece AnchorTag) := [.tag (.opening [title, target])]
    let site (segment : String) : Url :=
      ⟨"http", some ⟨"", "", .name "a.test", none⟩, .segments [segment], none, none⟩
    let base := site ""
    pageLinks base (String.ofList (writePage AnchorTag.written longer)) = [site "a"] ∧
      destinations base Attribute.isHref longer = [site "b"] ∧
      pageLinks base (String.ofList (writePage AnchorTag.written held)) = [site "href="] ∧
      destinations base Attribute.isHref held = [site "b"] := by
  decide +kernel

end Concordance.Crawl
