import Concordance.Markup.Entity
import Concordance.Proofs.Markup.Spans
import Concordance.Proofs.Number.Numerals
import Concordance.Proofs.Text.Capitals

/-!
# Texts written with references

A character other than an ampersand can stand for itself, each character can be written by its number,
and some have a name. An ampersand stands only at the start of a reference, and the reference ends with
the first semicolon after it, so that however the characters of a text are written, decoding reads them
one by one. What it gives is not read again.

## Main definitions

* `IsNumericReference`: the references to a number
* `IsWritten`: the ways to write a character
* `Encodes`: a text written character by character, with references to no character in between

## Main results

* `IsNumericReference.decodeReference_eq`: a numeric reference stands for the character with its number
* `decodeReferences_of_encodes`: decoding gives the text that was written
-/

namespace Concordance.Markup

/-- A number between an ampersand and a semicolon: in decimal digits, or in hexadecimal ones of either
case, in both after any number of zeros. -/
inductive IsNumericReference (number : Nat) : List Char → Prop
  | decimal (zeros : Nat) : IsNumericReference number
      ('&' :: '#' :: (List.replicate zeros '0' ++ Nat.toDigits 10 number ++ [';']))
  | hexadecimal {mark : Char} {zeros : Nat} {digits : List Char} (hmark : mark = 'x' ∨ mark = 'X')
      (hdigits : digits.map Char.toLower = List.replicate zeros '0' ++ Nat.toDigits 16 number) :
      IsNumericReference number ('&' :: '#' :: mark :: (digits ++ [';']))

/-- The characters that mean something in markup, and their names. -/
def markupNames : List (Char × List Char) :=
  [('&', "amp".toList), ('<', "lt".toList), ('>', "gt".toList), ('"', "quot".toList),
    ('\'', "apos".toList)]

/-- A way to write a character: as itself, by its number, or by its name. -/
inductive IsWritten (c : Char) : List Char → Prop
  | itself (hc : c ≠ '&') : IsWritten c [c]
  | numbered {written : List Char} (h : IsNumericReference c.toNat written) : IsWritten c written
  | named {name : List Char} (h : (c, name) ∈ markupNames) : IsWritten c ('&' :: (name ++ [';']))

/-- A text written character by character. References to numbers of no character may stand in
between. -/
inductive Encodes : List Char → List Char → Prop
  | nil : Encodes [] []
  | char {c : Char} {text written encoded : List Char} (hc : IsWritten c written)
      (htext : Encodes text encoded) : Encodes (c :: text) (written ++ encoded)
  | nothing {number : Nat} {text written encoded : List Char} (hnumber : ¬ number.isValidChar)
      (hwritten : IsNumericReference number written) (htext : Encodes text encoded) :
      Encodes text (written ++ encoded)

/-! ## Digits -/

section Digits

theorem hexDigit_digitChar : ∀ d < 16, Quoted.hexDigit (Nat.digitChar d) = some d := by decide

theorem isHexDigit_digitChar : ∀ d < 16, isHexDigit (Nat.digitChar d) = true := by decide

theorem hexDigit_toLower (c : Char) : Quoted.hexDigit c.toLower = Quoted.hexDigit c :=
  Text.apply_toLower (by decide) c

theorem isHexDigit_toLower (c : Char) : isHexDigit c.toLower = isHexDigit c :=
  Text.apply_toLower (by decide) c

theorem hexValue_map_toLower (digits : List Char) :
    hexValue (digits.map Char.toLower) = hexValue digits := by
  simp only [hexValue, List.foldl_map, hexDigit_toLower]

theorem hexValue_concat (digits : List Char) {d : Nat} (hd : d < 16) :
    hexValue (digits ++ [Nat.digitChar d]) = hexValue digits * 16 + d := by
  simp [hexValue, hexDigit_digitChar d hd]

theorem hexValue_toDigits (n : Nat) : hexValue (Nat.toDigits 16 n) = n := by
  induction n using Nat.strong_induction_on with
  | _ n ih =>
    by_cases hlt : n < 16
    · rw [Nat.toDigits_of_lt_base hlt]
      simpa [hexValue] using hexValue_concat [] hlt
    · rw [Nat.toDigits_of_base_le (by decide) (Nat.le_of_not_lt hlt),
        hexValue_concat _ (Nat.mod_lt n (by decide)), ih (n / 16) (by omega)]
      omega

theorem isHexDigit_of_mem_toDigits {n : Nat} {c : Char} (h : c ∈ Nat.toDigits 16 n) :
    isHexDigit c = true := by
  induction n using Nat.strong_induction_on with
  | _ n ih =>
    by_cases hlt : n < 16
    · rw [Nat.toDigits_of_lt_base hlt, List.mem_singleton] at h
      rw [h]
      exact isHexDigit_digitChar n hlt
    · rw [Nat.toDigits_of_base_le (by decide) (Nat.le_of_not_lt hlt), List.mem_append,
        List.mem_singleton] at h
      rcases h with h | rfl
      · exact ih (n / 16) (by omega) h
      · exact isHexDigit_digitChar (n % 16) (Nat.mod_lt n (by decide))

/-- Zeros in front do not count, for any reading of digits that takes a zero after nothing as nothing. -/
theorem foldl_zeros_append {step : Nat → Char → Nat} (h : step 0 '0' = 0) (zeros : Nat)
    (digits : List Char) :
    (List.replicate zeros '0' ++ digits).foldl step 0 = digits.foldl step 0 := by
  induction zeros with
  | zero => rfl
  | succ zeros ih => rw [List.replicate_succ, List.cons_append, List.foldl_cons, h, ih]

theorem digitsValue_zeros_append (zeros n : Nat) :
    digitsValue (List.replicate zeros '0' ++ Nat.toDigits 10 n) = n :=
  (foldl_zeros_append rfl zeros _).trans (Numeral.digitsValue_toDigits n)

theorem hexValue_zeros_append (zeros n : Nat) :
    hexValue (List.replicate zeros '0' ++ Nat.toDigits 16 n) = n :=
  (foldl_zeros_append rfl zeros _).trans (hexValue_toDigits n)

end Digits

/-! ## The length of a reference -/

section Length

variable {body digits : List Char}

/-- A digit is no mark of hexadecimal digits. -/
theorem ne_mark_of_isDigit {d : Char} (h : d.isDigit = true) : d ≠ 'x' ∧ d ≠ 'X' := by
  constructor <;> rintro rfl <;> exact absurd h (by decide)

theorem opensWith_referenceLength : OpensWith referenceLength '&' := by
  intro c rest hne
  unfold referenceLength
  split <;> first | rfl | (rename_i heq; exact absurd (List.cons.inj heq).1 hne)

theorem terminatedLength_of_all {p : Char → Bool} (hne : body ≠ []) (hbody : ∀ c ∈ body, p c = true)
    (hend : p ';' = false) (rest : List Char) :
    terminatedLength p (body ++ ';' :: rest) = body.length + 1 := by
  simp [terminatedLength, lengthWhile_append_cons hbody hend, List.length_pos_iff.mpr hne]

theorem isWholeSpan_hexadecimal {mark : Char} (hmark : mark = 'x' ∨ mark = 'X') (hne : digits ≠ [])
    (hdigits : ∀ c ∈ digits, isHexDigit c = true) :
    IsWholeSpan referenceLength ('&' :: '#' :: mark :: (digits ++ [';'])) := by
  refine ⟨List.cons_ne_nil _ _, fun rest => ?_⟩
  have hlength := terminatedLength_of_all hne hdigits rfl rest
  rcases hmark with rfl | rfl <;> simp [referenceLength, afterLead, hlength] <;> omega

theorem isWholeSpan_decimal (hne : digits ≠ []) (hdigits : ∀ c ∈ digits, c.isDigit = true) :
    IsWholeSpan referenceLength ('&' :: '#' :: (digits ++ [';'])) := by
  refine ⟨List.cons_ne_nil _ _, fun rest => ?_⟩
  have hlength := terminatedLength_of_all hne hdigits rfl rest
  obtain ⟨d, digits, rfl⟩ := List.exists_cons_of_ne_nil hne
  obtain ⟨hlower, hupper⟩ := ne_mark_of_isDigit (hdigits d List.mem_cons_self)
  rw [List.cons_append] at hlength
  simp [referenceLength, afterLead, hlength, hlower, hupper]
  omega

theorem isWholeSpan_named (hne : body ≠ []) (hbody : ∀ c ∈ body, c.isAlphanum = true) :
    IsWholeSpan referenceLength ('&' :: (body ++ [';'])) := by
  refine ⟨List.cons_ne_nil _ _, fun rest => ?_⟩
  have hlength := terminatedLength_of_all hne hbody rfl rest
  obtain ⟨c, body, rfl⟩ := List.exists_cons_of_ne_nil hne
  have hnumber : c ≠ '#' := by
    rintro rfl
    exact absurd (hbody '#' List.mem_cons_self) (by decide)
  rw [List.cons_append] at hlength
  simp [referenceLength, afterLead, hlength, hnumber]
  omega

end Length

/-! ## Decoding -/

section Decoding

variable {number : Nat} {written : List Char}

theorem isDigit_of_mem_zeros_append {zeros : Nat} {c : Char}
    (h : c ∈ List.replicate zeros '0' ++ Nat.toDigits 10 number) : c.isDigit = true := by
  rcases List.mem_append.mp h with h | h
  · rw [List.eq_of_mem_replicate h]
    rfl
  · exact Nat.isDigit_of_mem_toDigits (by decide) (by decide) h

theorem isHexDigit_of_map_toLower {zeros : Nat} {digits : List Char} {c : Char}
    (hdigits : digits.map Char.toLower = List.replicate zeros '0' ++ Nat.toDigits 16 number)
    (h : c ∈ digits) : isHexDigit c = true := by
  have hmem := List.mem_map_of_mem (f := Char.toLower) h
  rw [hdigits, List.mem_append] at hmem
  rw [← isHexDigit_toLower]
  rcases hmem with hmem | hmem
  · rw [List.eq_of_mem_replicate hmem]
    rfl
  · exact isHexDigit_of_mem_toDigits hmem

theorem IsNumericReference.isWholeSpan (h : IsNumericReference number written) :
    IsWholeSpan referenceLength written := by
  cases h with
  | decimal zeros =>
    exact isWholeSpan_decimal (List.append_ne_nil_of_right_ne_nil _ Nat.toDigits_ne_nil)
      fun c => isDigit_of_mem_zeros_append
  | hexadecimal hmark hdigits =>
    refine isWholeSpan_hexadecimal hmark ?_ fun c => isHexDigit_of_map_toLower hdigits
    rintro rfl
    exact List.append_ne_nil_of_right_ne_nil _ Nat.toDigits_ne_nil hdigits.symm

theorem decodeReference_of_body (body : List Char) :
    decodeReference ('&' :: (body ++ [';'])) = decodeBody body := by
  simp [decodeReference]

/-- **A numeric reference stands for the character with its number**, and for nothing if there is none. -/
theorem IsNumericReference.decodeReference_eq (h : IsNumericReference number written) :
    decodeReference written = characterOf number := by
  cases h with
  | decimal zeros =>
    rw [← List.cons_append, decodeReference_of_body]
    have hdigits : ∀ c ∈ List.replicate zeros '0' ++ Nat.toDigits 10 number, c.isDigit = true :=
      fun c => isDigit_of_mem_zeros_append
    have hvalue := digitsValue_zeros_append zeros number
    -- the first digit is no mark, so the body is not read as one of hexadecimal digits
    generalize List.replicate zeros '0' ++ Nat.toDigits 10 number = digits at hdigits hvalue
    cases digits with
    | nil => rw [← hvalue]; rfl
    | cons d digits =>
      obtain ⟨hlower, hupper⟩ := ne_mark_of_isDigit (hdigits d List.mem_cons_self)
      simp [decodeBody, hlower, hupper, hvalue]
  | hexadecimal hmark hdigits =>
    rw [← List.cons_append, ← List.cons_append, decodeReference_of_body,
      ← hexValue_zeros_append _ number, ← hdigits, hexValue_map_toLower]
    rcases hmark with rfl | rfl <;> rfl

theorem decodeReferences_append_of_isWholeSpan (h : IsWholeSpan referenceLength written)
    (rest : List Char) :
    decodeReferences (written ++ rest) = decodeReference written ++ decodeReferences rest :=
  replaceSpans_append_of_isWholeSpan h rest

/-- However a character is written, it is read as that character. -/
theorem IsWritten.decodeReferences_append {c : Char} (h : IsWritten c written) (rest : List Char) :
    decodeReferences (written ++ rest) = c :: decodeReferences rest := by
  cases h with
  | itself hc =>
    have hfree : IsFree referenceLength [c] :=
      opensWith_referenceLength.isFree (by simpa using Ne.symm hc)
    exact replaceSpans_append_of_isFreeBefore (hfree rest)
  | numbered hreference =>
    have hvalid : c.toNat.isValidChar := c.valid
    rw [decodeReferences_append_of_isWholeSpan hreference.isWholeSpan,
      hreference.decodeReference_eq, characterOf, if_pos hvalid, Char.ofNat_toNat,
      List.singleton_append]
  | @named name hname =>
    have hall : ∀ named ∈ markupNames, named.2 ≠ [] ∧ named.2.all Char.isAlphanum = true ∧
        decodeBody named.2 = [named.1] := by decide
    obtain ⟨hne, hletters, hbody⟩ := hall _ hname
    rw [decodeReferences_append_of_isWholeSpan (isWholeSpan_named hne (List.all_eq_true.mp hletters)),
      decodeReference_of_body, hbody, List.singleton_append]

/-- **Decoding undoes encoding.** However the characters of a text are written, each as itself, by its
number in any digits or by its name, decoding gives the text; references to numbers that no character has
leave no trace between them. -/
theorem decodeReferences_of_encodes {text encoded : List Char} (h : Encodes text encoded) :
    decodeReferences encoded = text := by
  induction h with
  | nil => rfl
  | char hc _ ih => rw [hc.decodeReferences_append, ih]
  | nothing hnumber hwritten _ ih =>
    rw [decodeReferences_append_of_isWholeSpan hwritten.isWholeSpan, hwritten.decodeReference_eq,
      characterOf, if_neg hnumber, List.nil_append, ih]

/-- An ampersand by its number, before what would make it a reference if it were read again; a surrogate,
and a number that would be 65 if it were cut off; letters by number, with digits of either case, and one
by name. -/
theorem decodeReferences_of_encodes_ampersand :
    let text := "&#65;é😀<".toList
    let encoded := "&#0038;#65;&#xD800;&#4294967361;&#Xe9;&#x01F600;&lt;".toList
    Encodes text encoded ∧ decodeReferences encoded = text := by
  intro text encoded
  have hampersand : IsNumericReference '&'.toNat "&#0038;".toList := .decimal 2
  have hsurrogate : IsNumericReference 0xD800 "&#xD800;".toList :=
    @IsNumericReference.hexadecimal _ 'x' 0 "D800".toList (.inl rfl) (by decide)
  have hlarge : IsNumericReference 4294967361 "&#4294967361;".toList := .decimal 0
  have hletter : IsNumericReference 'é'.toNat "&#Xe9;".toList :=
    @IsNumericReference.hexadecimal _ 'X' 0 "e9".toList (.inr rfl) (by decide)
  have hface : IsNumericReference '😀'.toNat "&#x01F600;".toList :=
    @IsNumericReference.hexadecimal _ 'x' 1 "01F600".toList (.inl rfl) (by decide)
  have hbracket : IsWritten '<' "&lt;".toList := @IsWritten.named _ "lt".toList (by decide)
  have hend : Encodes "é😀<".toList "&#Xe9;&#x01F600;&lt;".toList :=
    .char (.numbered hletter) (.char (.numbered hface) (.char hbracket .nil))
  have hnothing : Encodes "é😀<".toList "&#xD800;&#4294967361;&#Xe9;&#x01F600;&lt;".toList :=
    .nothing (by decide) hsurrogate (.nothing (by decide) hlarge hend)
  have h : Encodes text encoded :=
    .char (.numbered hampersand) (.char (.itself (by decide)) (.char (.itself (by decide))
      (.char (.itself (by decide)) (.char (.itself (by decide)) hnothing))))
  exact ⟨h, decodeReferences_of_encodes h⟩

end Decoding

end Concordance.Markup
