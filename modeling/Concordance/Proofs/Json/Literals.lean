import Concordance.Json.Printer
import Concordance.Json.Token
import Mathlib.Data.List.Forall2
import Mathlib.Tactic.SplitIfs

/-!
# Texts between quotes

Every text can be written between quotes and is read back as it was: quotes, backslashes and control
characters have their escapes, and all other characters stand for themselves. The reader of tokens finds
the closing quote where it was written, because no other quote is left without a backslash before it.

## Main definitions

* `Quoted.Piece.Names`: a piece of a literal stands for a character

## Main results

* `Quoted.decode_encode`: what is written for a text stands for that text
* `Json.tokensFrom_render`: a literal is one token, wherever it stands
-/

namespace Concordance

namespace Quoted

/-- A piece that stands for a character by itself. -/
inductive Piece.Names : Piece → Char → Prop
  | char (c : Char) : Names (.char c) c
  | unit (c : Char) (h : c.toNat < 32) : Names (.unit c.toNat) c

/-! ## Reading what was written for a character -/

/-- A character is written as an escape with a letter of its own, as one with its value, or as itself. -/
theorem encodeChar_cases (c : Char) :
    (∃ letter, encodeChar c = ['\\', letter] ∧ namedEscape letter = some c ∧ letter ≠ 'u') ∨
      (encodeChar c = encodeControl c ∧ c.toNat < 32) ∨
      (encodeChar c = [c] ∧ c ≠ '"' ∧ c ≠ '\\' ∧ ¬c.toNat < 32) := by
  unfold encodeChar
  split_ifs with hquote hbackslash hb ht hn hf hr hcontrol
  · exact .inl ⟨'"', rfl, by rw [hquote]; rfl, by decide⟩
  · exact .inl ⟨'\\', rfl, by rw [hbackslash]; rfl, by decide⟩
  · exact .inl ⟨'b', rfl, hb ▸ rfl, by decide⟩
  · exact .inl ⟨'t', rfl, ht ▸ rfl, by decide⟩
  · exact .inl ⟨'n', rfl, hn ▸ rfl, by decide⟩
  · exact .inl ⟨'f', rfl, hf ▸ rfl, by decide⟩
  · exact .inl ⟨'r', rfl, hr ▸ rfl, by decide⟩
  · exact .inr (.inl ⟨rfl, hcontrol⟩)
  · exact .inr (.inr ⟨rfl, hquote, hbackslash, hcontrol⟩)

/-- Two hexadecimal digits are enough for a control character. -/
theorem hexDigit_digitChar : ∀ n < 32, hexDigit (Nat.digitChar (n / 16)) = some (n / 16) ∧
    hexDigit (Nat.digitChar (n % 16)) = some (n % 16) := by
  decide

theorem pieces_escape {c named : Char} (h : namedEscape c = some named) (hunit : c ≠ 'u')
    (rest : List Char) : pieces ('\\' :: c :: rest) = (pieces rest).map (.char named :: ·) := by
  rw [pieces]
  · rw [h]
    rfl
  · intro a b c' d more hu _
    exact hunit hu

theorem pieces_encodeControl {c : Char} (h : c.toNat < 32) (rest : List Char) :
    pieces (encodeControl c ++ rest) = (pieces rest).map (.unit c.toNat :: ·) := by
  obtain ⟨hhigh, hlow⟩ := hexDigit_digitChar c.toNat h
  have hzero : hexDigit '0' = some 0 := by decide
  have hvalue : 0 * 4096 + 0 * 256 + c.toNat / 16 * 16 + c.toNat % 16 = c.toNat := by omega
  simp only [encodeControl, List.cons_append, List.nil_append, pieces, hhigh, hlow, hzero,
    Option.bind_eq_bind, Option.bind_some, hvalue]

theorem pieces_self {c : Char} (hbackslash : c ≠ '\\') (h : ¬c.toNat < 32) (rest : List Char) :
    pieces (c :: rest) = (pieces rest).map (.char c :: ·) := by
  rw [pieces, if_neg (not_or.mpr ⟨hbackslash, h⟩)]
  · intro a b c' d more heq _
    exact hbackslash heq
  · intro c' more heq _
    exact hbackslash heq

/-- What is written for a character is one piece, which stands for it. -/
theorem exists_pieces_encodeChar (c : Char) : ∃ piece : Piece, piece.Names c ∧
    ∀ rest, pieces (encodeChar c ++ rest) = (pieces rest).map (piece :: ·) := by
  obtain ⟨letter, hwritten, hnamed, hunit⟩ | ⟨hwritten, hcontrol⟩ |
    ⟨hwritten, hquote, hbackslash, hcontrol⟩ := encodeChar_cases c
  · exact ⟨_, .char c, fun rest => hwritten ▸ pieces_escape hnamed hunit rest⟩
  · exact ⟨_, .unit c hcontrol, fun rest => hwritten ▸ pieces_encodeControl hcontrol rest⟩
  · exact ⟨_, .char c, fun rest => hwritten ▸ pieces_self hbackslash hcontrol rest⟩

/-! ## Reading what was written for a text -/

theorem exists_pieces_encode (text : List Char) :
    ∃ found, pieces (encode text) = some found ∧ List.Forall₂ Piece.Names found text := by
  induction text with
  | nil => exact ⟨[], rfl, .nil⟩
  | cons c rest ih =>
    obtain ⟨found, hfound, hnames⟩ := ih
    obtain ⟨piece, hpiece, hread⟩ := exists_pieces_encodeChar c
    refine ⟨piece :: found, ?_, .cons hpiece hnames⟩
    rw [encode, List.flatMap_cons, hread, ← encode, hfound]
    rfl

/-- A code unit that is a control character needs no other one. -/
theorem assemble_unit {value : Nat} (h : value < 32) (rest : List Piece) :
    assemble (.unit value :: rest) = (assemble rest).map (Char.ofNat value :: ·) := by
  -- the halves of a pair are all far above the control characters
  have hleading : isLeading value = false := by
    rw [isLeading, Bool.and_eq_false_imp]
    intro hle
    have := of_decide_eq_true hle
    omega
  have htrailing : isTrailing value = false := by
    rw [isTrailing, Bool.and_eq_false_imp]
    intro hle
    have := of_decide_eq_true hle
    omega
  cases rest with
  | nil => simp [assemble, hleading, htrailing]
  | cons piece rest => cases piece <;> simp [assemble, hleading, htrailing]

/-- Pieces that stand for characters by themselves stand for the text of these. -/
theorem assemble_of_names {found : List Piece} {text : List Char}
    (h : List.Forall₂ Piece.Names found text) : assemble found = some text := by
  induction h with
  | nil => rfl
  | cons hpiece _ ih =>
    cases hpiece with
    | char c => rw [assemble, ih]; rfl
    | unit c hc => rw [assemble_unit hc, ih, Char.ofNat_toNat]; rfl

/-- **What is written for a text stands for that text.** -/
theorem decode_encode (text : String) : decode (encode text.toList) = some (.text text) := by
  obtain ⟨found, hfound, hnames⟩ := exists_pieces_encode text.toList
  simp only [decode, hfound, Option.map_some, assemble_of_names hnames, String.ofList_toList]

end Quoted

namespace Json

open Quoted (encode encodeChar encodeControl)

/-! ## Finding the closing quote -/

theorem tokensFrom_escape (body : List Char) (c : Char) (rest : List Char) :
    tokensFrom (.inQuotes body false) ('\\' :: c :: rest) =
      tokensFrom (.inQuotes (c :: '\\' :: body) false) rest := rfl

/-- Inside quotes, only a quote ends the literal, and only a backslash changes what the next character
means. -/
theorem tokensFrom_self {c : Char} (hquote : c ≠ '"') (hbackslash : c ≠ '\\') (body rest : List Char) :
    tokensFrom (.inQuotes body false) (c :: rest) = tokensFrom (.inQuotes (c :: body) false) rest := by
  rw [tokensFrom, if_neg hquote, beq_false_of_ne hbackslash]

theorem digitChar_ne : ∀ n < 16, Nat.digitChar n ≠ '"' ∧ Nat.digitChar n ≠ '\\' := by
  decide

theorem tokensFrom_encodeControl {c : Char} (h : c.toNat < 32) (body rest : List Char) :
    tokensFrom (.inQuotes body false) (encodeControl c ++ rest) =
      tokensFrom (.inQuotes ((encodeControl c).reverse ++ body) false) rest := by
  obtain ⟨hhighQuote, hhighBackslash⟩ := digitChar_ne (c.toNat / 16) (by omega)
  obtain ⟨hlowQuote, hlowBackslash⟩ := digitChar_ne (c.toNat % 16) (by omega)
  have hzero : '0' ≠ '"' ∧ '0' ≠ '\\' := by decide
  simp only [encodeControl, List.cons_append, List.nil_append]
  rw [tokensFrom_escape, tokensFrom_self hzero.1 hzero.2, tokensFrom_self hzero.1 hzero.2,
    tokensFrom_self hhighQuote hhighBackslash, tokensFrom_self hlowQuote hlowBackslash]
  rfl

theorem tokensFrom_encodeChar (c : Char) (body rest : List Char) :
    tokensFrom (.inQuotes body false) (encodeChar c ++ rest) =
      tokensFrom (.inQuotes ((encodeChar c).reverse ++ body) false) rest := by
  obtain ⟨letter, hwritten, -, -⟩ | ⟨hwritten, hcontrol⟩ | ⟨hwritten, hquote, hbackslash, -⟩ :=
    Quoted.encodeChar_cases c <;> rw [hwritten]
  · rfl
  · exact tokensFrom_encodeControl hcontrol body rest
  · exact tokensFrom_self hquote hbackslash body rest

theorem tokensFrom_encode (text body rest : List Char) :
    tokensFrom (.inQuotes body false) (encode text ++ rest) =
      tokensFrom (.inQuotes ((encode text).reverse ++ body) false) rest := by
  -- after what is written for a character no backslash is left open, so the next one starts afresh
  induction text generalizing body with
  | nil => rfl
  | cons c more ih =>
    rw [encode, List.flatMap_cons, List.append_assoc, tokensFrom_encodeChar, ← encode, ih,
      List.reverse_append, List.append_assoc]

/-- **A literal is one token**, wherever it stands. -/
theorem tokensFrom_render (text : String) (rest : List Char) :
    tokensFrom .between ((Quoted.text text).render ++ rest) =
      (tokensFrom .between rest).map (.quoted (.text text) :: ·) := by
  rw [Quoted.render, List.append_assoc, List.cons_append, List.singleton_append, tokensFrom,
    if_pos rfl, tokensFrom_encode, tokensFrom, if_pos rfl, List.append_nil, List.reverse_reverse,
    Quoted.decode_encode]
  rfl

end Json

end Concordance
