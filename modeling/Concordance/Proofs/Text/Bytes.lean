import Mathlib.Data.List.Lex
import Mathlib.Data.String.Basic

/-!
# The bytes of a text

A text is stored as the bytes of its characters, one to four for each. Bytes compare as the characters
do: the first byte of a character says how many there are, and the more there are the greater it is.
So the order of texts by their characters is that by their bytes, and a text starts with another one if
its bytes start with those of the other one.

## Main definitions

* `Text.bytes`: the bytes of a text

## Main results

* `encode_append_lt`: of two characters the first bytes that differ decide, whatever follows
* `bytes_lt_bytes_iff`: texts compare as their bytes do
* `bytes_prefix_bytes_iff`: a text starts with another one if its bytes do
-/

namespace Concordance.Text

/-- The bytes of a text. -/
def bytes (text : String) : List UInt8 :=
  text.toUTF8.data.toList

theorem bytes_eq_flatMap (text : String) :
    bytes text = text.toList.flatMap String.utf8EncodeChar := by
  obtain ⟨chars, rfl⟩ := text.exists_eq_ofList
  simp [bytes, List.utf8Encode]

/-! ## Lists -/

/-- Lists compare as their members do, from the first one on. -/
theorem list_compare_eq_lt_iff {α : Type} [LinearOrder α] {list more : List α} :
    List.compareLex compare list more = .lt ↔ list < more := by
  induction list generalizing more with
  | nil =>
    cases more with
    | nil => simp [List.compareLex_nil_nil]
    | cons b more => simp [List.compareLex_nil_cons]
  | cons a list ih =>
    cases more with
    | nil => simp [List.compareLex_cons_nil]
    | cons b more =>
      rw [List.compareLex_cons_cons, Ordering.then_eq_lt, List.cons_lt_cons_iff, ih,
        compare_lt_iff_lt, compare_eq_iff_eq]

/-! ## Characters -/

theorem cons_ofNat_lt_of_lt {m n : Nat} (hn : n < 256) (h : m < n) (s t : List UInt8) :
    UInt8.ofNat m :: s < UInt8.ofNat n :: t := by
  have hm : m < 256 := Nat.lt_trans h hn
  rw [List.cons_lt_cons_iff, UInt8.lt_iff_toNat_lt, UInt8.toNat_ofNat_of_lt' hm,
    UInt8.toNat_ofNat_of_lt' hn]
  exact .inl h

theorem cons_ofNat_lt_of_le {m n : Nat} {s t : List UInt8} (hn : n < 256) (hle : m ≤ n)
    (h : m = n → s < t) : UInt8.ofNat m :: s < UInt8.ofNat n :: t := by
  rcases Nat.lt_or_eq_of_le hle with hlt | rfl
  · exact cons_ofNat_lt_of_lt hn hlt s t
  · exact List.cons_lt_cons_iff.mpr (.inr ⟨rfl, h rfl⟩)

/-- **The bytes of the lesser character come first**, whatever follows. -/
theorem encode_append_lt {c d : Char} (h : c < d) (s t : List UInt8) :
    String.utf8EncodeChar c ++ s < String.utf8EncodeChar d ++ t := by
  have hlt : c.val.toNat < d.val.toNat := h
  have hd : d.val.toNat < 0x110000 := by
    rcases d.valid with hlow | ⟨-, hhigh⟩
    · exact Nat.lt_trans hlow (by decide)
    · exact hhigh
  dsimp only [String.utf8EncodeChar]
  split_ifs <;> simp only [List.cons_append, List.nil_append]
  -- the first byte decides, unless both take as many bytes and more than one
  any_goals apply cons_ofNat_lt_of_lt <;> omega
  case pos =>
    exact cons_ofNat_lt_of_le (by omega) (by omega) fun _ =>
      cons_ofNat_lt_of_lt (by omega) (by omega) s t
  case pos =>
    exact cons_ofNat_lt_of_le (by omega) (by omega) fun _ =>
      cons_ofNat_lt_of_le (by omega) (by omega) fun _ =>
        cons_ofNat_lt_of_lt (by omega) (by omega) s t
  case neg =>
    exact cons_ofNat_lt_of_le (by omega) (by omega) fun _ =>
      cons_ofNat_lt_of_le (by omega) (by omega) fun _ =>
        cons_ofNat_lt_of_le (by omega) (by omega) fun _ =>
          cons_ofNat_lt_of_lt (by omega) (by omega) s t

/-- The bytes of a character tell it, whatever follows. -/
theorem eq_of_encode_append_eq {c d : Char} {s t : List UInt8}
    (h : String.utf8EncodeChar c ++ s = String.utf8EncodeChar d ++ t) : c = d := by
  rcases lt_trichotomy c d with hlt | heq | hgt
  · have hbytes := encode_append_lt hlt s t
    rw [h] at hbytes
    exact absurd hbytes (List.lt_irrefl _)
  · exact heq
  · have hbytes := encode_append_lt hgt t s
    rw [h] at hbytes
    exact absurd hbytes (List.lt_irrefl _)

/-! ## Texts -/

theorem flatMap_encode_lt {chars more : List Char} (h : chars < more) :
    chars.flatMap String.utf8EncodeChar < more.flatMap String.utf8EncodeChar := by
  induction chars generalizing more with
  | nil =>
    cases more with
    | nil => cases h
    | cons d more =>
      obtain ⟨first, rest, hd⟩ := List.exists_cons_of_ne_nil (String.utf8EncodeChar_ne_nil (c := d))
      rw [List.flatMap_nil, List.flatMap_cons, hd]
      exact List.nil_lt_cons first _
  | cons c chars ih =>
    cases more with
    | nil => cases h
    | cons d more =>
      rw [List.flatMap_cons, List.flatMap_cons]
      rcases List.cons_lt_cons_iff.mp h with hlt | ⟨rfl, hrest⟩
      · exact encode_append_lt hlt _ _
      · exact List.append_left_lt (ih hrest)

/-- **Texts compare as their bytes do.** -/
theorem bytes_lt_bytes_iff {text other : String} : bytes text < bytes other ↔ text < other := by
  rw [bytes_eq_flatMap, bytes_eq_flatMap, String.lt_iff_toList_lt]
  refine ⟨fun h => ?_, flatMap_encode_lt⟩
  rcases lt_trichotomy text.toList other.toList with hlt | heq | hgt
  · exact hlt
  · rw [heq] at h
    exact absurd h (List.lt_irrefl _)
  · exact absurd (flatMap_encode_lt hgt) (List.lt_asymm h)

/-- **A text starts with another one if its bytes start with those of the other one.** -/
theorem bytes_prefix_bytes_iff {beginning text : String} :
    bytes beginning <+: bytes text ↔ beginning.toList <+: text.toList := by
  rw [bytes_eq_flatMap, bytes_eq_flatMap]
  generalize beginning.toList = chars
  generalize text.toList = more
  constructor
  · -- the first bytes that are the same belong to the same character
    intro h
    induction chars generalizing more with
    | nil => exact List.nil_prefix
    | cons c chars ih =>
      cases more with
      | nil =>
        rw [List.flatMap_nil, List.prefix_nil, List.flatMap_cons, List.append_eq_nil_iff] at h
        exact absurd h.1 String.utf8EncodeChar_ne_nil
      | cons d more =>
        obtain ⟨rest, hrest⟩ := h
        rw [List.flatMap_cons, List.flatMap_cons, List.append_assoc] at hrest
        obtain rfl : c = d := eq_of_encode_append_eq hrest
        rw [List.cons_prefix_cons]
        exact ⟨rfl, ih more ⟨rest, List.append_cancel_left hrest⟩⟩
  · -- what starts with the characters starts with their bytes
    rintro ⟨rest, rfl⟩
    rw [List.flatMap_append]
    exact List.prefix_append _ _

end Concordance.Text
