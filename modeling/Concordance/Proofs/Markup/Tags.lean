import Concordance.Markup.Tag
import Concordance.Proofs.Markup.Spans

/-!
# A text without its tags

A tag ends with the first closing bracket after its opening one. So an opening bracket before a tag that
starts no tag itself has its closing bracket right behind it, and one behind all tags has none. Neither
changes when the tags are deleted, so that what is left joins to no new tag.

## Main definitions

* `IsTag`: what a tag looks like

## Main results

* `measures_tagLength`: the tags that are found are those of this form
* `isFreeBefore_removeTags`: no tag starts in what is left
* `removeTags_laws`: the leftmost tags go and nothing else, no tag is left, and nothing is left to do
-/

namespace Concordance.Markup

variable {text rest : List Char}

/-- An opening bracket, something without a closing bracket, and a closing bracket. -/
def IsTag (tag : List Char) : Prop :=
  ∃ body : List Char, body ≠ [] ∧ '>' ∉ body ∧ tag = '<' :: (body ++ ['>'])

theorem tagLength_of_body {body : List Char} (hne : body ≠ []) (hbody : '>' ∉ body)
    (rest : List Char) : tagLength ('<' :: (body ++ '>' :: rest)) = body.length + 2 := by
  have hlength : lengthWhile (· != '>') (body ++ '>' :: rest) = body.length :=
    lengthWhile_append_cons (fun c hc => bne_iff_ne.mpr (ne_of_mem_of_not_mem hc hbody)) rfl rest
  simp [tagLength, hlength, List.length_pos_iff.mpr hne]

theorem opensWith_tagLength : OpensWith tagLength '<' := by
  intro c rest hne
  unfold tagLength
  split
  · rename_i heq
    exact absurd (List.cons.inj heq).1 hne
  · rfl

theorem measures_tagLength : Measures tagLength IsTag where
  isWholeSpan := by
    rintro _ ⟨body, hne, hbody, rfl⟩
    refine ⟨List.cons_ne_nil _ _, fun rest => ?_⟩
    simp [tagLength_of_body hne hbody]
  exists_prefix := by
    intro text hne
    unfold tagLength at hne
    split at hne
    · rename_i rest
      have hif : 0 < lengthWhile (· != '>') rest ∧
          (rest.drop (lengthWhile (· != '>') rest)).head? = some '>' :=
        Decidable.byContradiction fun hif => hne (if_neg hif)
      rw [drop_lengthWhile, lengthWhile_eq, List.length_pos_iff] at hif
      obtain ⟨after, hafter⟩ := List.head?_eq_some_iff.mp hif.2
      refine ⟨_, ⟨after, ?_⟩, rest.takeWhile (· != '>'), hif.1, ?_, rfl⟩
      · rw [List.cons_append, List.append_assoc, List.singleton_append, ← hafter,
          List.takeWhile_append_dropWhile]
      · intro hmem
        have hall := List.all_eq_true.mp (List.all_takeWhile (p := (· != '>')) (l := rest)) _ hmem
        simp at hall
    · exact absurd rfl hne

/-- An opening bracket that starts no tag has its closing bracket right behind it, if it has one. -/
theorem head?_of_tagLength_eq_zero (h : tagLength ('<' :: text) = 0) (hmem : '>' ∈ text) :
    text.head? = some '>' := by
  obtain ⟨body, rest, rfl, hbody⟩ := List.eq_append_cons_of_mem hmem
  cases body with
  | nil => rfl
  | cons c body =>
    rw [tagLength_of_body (List.cons_ne_nil c body) hbody] at h
    omega

theorem tagLength_empty (rest : List Char) : tagLength ('<' :: '>' :: rest) = 0 := by
  simp [tagLength, lengthWhile]

/-- Whatever follows a text before a tag, no tag starts in that text. -/
theorem isFree_of_isFreeBefore_tag {tag : List Char} (htag : IsTag tag)
    (h : IsFreeBefore tagLength text (tag ++ rest)) : IsFree tagLength text := by
  intro other tail htail hne
  obtain ⟨c, tail, rfl⟩ := List.exists_cons_of_ne_nil hne
  by_cases hc : c = '<'
  · subst hc
    obtain ⟨body, -, -, rfl⟩ := htag
    have hhead : (tail ++ ('<' :: (body ++ ['>']) ++ rest)).head? = some '>' :=
      head?_of_tagLength_eq_zero (h _ htail hne) (by simp)
    cases tail with
    | nil => simp at hhead
    | cons d tail =>
      rw [List.cons_append, List.head?_cons, Option.some_inj] at hhead
      rw [hhead]
      exact tagLength_empty (tail ++ other)
  · exact opensWith_tagLength c (tail ++ other) hc

/-- No tag starts in a text without its tags. -/
theorem isFreeBefore_removeTags (text : List Char) : IsFreeBefore tagLength (removeTags text) [] := by
  have hcut : LeftmostCut IsTag text (removeTags text) :=
    measures_tagLength.leftmostCut_removeSpans text
  generalize removeTags text = left at hcut ⊢
  induction hcut with
  | done hnone => exact measures_tagLength.isFreeBefore_nil_iff.mpr hnone
  | cut htag hleftmost hrest ih =>
    rw [List.append_assoc] at hleftmost
    have hbefore := isFree_of_isFreeBefore_tag htag (measures_tagLength.isFreeBefore_iff.mpr hleftmost)
    exact (hbefore _).append ih

/-- **A text without its tags.** No tag is left in it, also none that what was around a deleted tag joins
to. It is the text from which the leftmost tags are cut, one behind the other, and from which nothing else
is; there is no other such text. Deleting the tags again changes nothing. -/
theorem removeTags_laws (text : List Char) :
    (∀ tag, IsTag tag → ¬ tag <:+: removeTags text) ∧
      (∀ left, LeftmostCut IsTag text left ↔ left = removeTags text) ∧
      removeTags (removeTags text) = removeTags text :=
  ⟨measures_tagLength.isFreeBefore_nil_iff.mp (isFreeBefore_removeTags text),
    fun _ => measures_tagLength.leftmostCut_iff,
    removeSpans_of_isFreeBefore (isFreeBefore_removeTags text)⟩

example : removeTags "a<><<b>c>d<".toList = "a<>c>d<".toList := by decide

end Concordance.Markup
