import Concordance.Proofs.Json.Literals
import Concordance.Proofs.Number.Numerals

/-!
# The tokens of what is written

A value that is written on indented lines has the tokens of its parts, with the brackets and marks between
them. White space only keeps a number apart from what follows it. How deep a value stands in others shows
in nothing but the white space.

## Main definitions

* `Json.IsReadable`: all numerals and literals of a value are read as they are written
* `Json.tokenList`: the tokens of a value
* `Json.EndsWord`: a bare word ends where a text starts
* `Json.IsWritten`: a value is written as its tokens, in front of what ends a word

## Main results

* `IsReadable.isWritten`: the tokens of a written value, in front of what follows it
* `tokens_pretty`: the tokens of a file
-/

namespace Concordance.Json

/-! ## Bare words -/

/-- A character that a bare word may have in it. -/
def IsWordCharacter (c : Char) : Prop :=
  c ≠ '"' ∧ isBlank c = false ∧ markOf c = none

instance (c : Char) : Decidable (IsWordCharacter c) :=
  inferInstanceAs (Decidable (_ ∧ _ ∧ _))

/-- The characters of a given word can be looked at one by one. -/
theorem isWordCharacter_of_all {word : List Char} (h : word.all (IsWordCharacter ·)) :
    ∀ c ∈ word, IsWordCharacter c := fun c hc =>
  of_decide_eq_true (List.all_eq_true.mp h c hc)

/-- A bare word that stands right before a text ends there. -/
def EndsWord (rest : List Char) : Prop :=
  ∀ letters, tokensFrom (.inWord letters) rest =
    (tokensFrom .between rest).map (.word letters.reverse :: ·)

theorem endsWord_blank {c : Char} (hquote : c ≠ '"') (h : isBlank c = true) (rest : List Char) :
    EndsWord (c :: rest) := by
  intro letters
  rw [tokensFrom, tokensFrom, if_neg hquote, if_neg hquote, if_pos h, if_pos h]

theorem endsWord_mark {c : Char} {m : Mark} (hquote : c ≠ '"') (hblank : isBlank c = false)
    (h : markOf c = some m) (rest : List Char) : EndsWord (c :: rest) := by
  intro letters
  simp only [tokensFrom, if_neg hquote, hblank, Bool.false_eq_true, if_false, h]
  cases tokensFrom .between rest <;> rfl

theorem tokensFrom_inWord {word : List Char} (h : ∀ c ∈ word, IsWordCharacter c)
    (letters rest : List Char) :
    tokensFrom (.inWord letters) (word ++ rest) =
      tokensFrom (.inWord (word.reverse ++ letters)) rest := by
  induction word generalizing letters with
  | nil => rfl
  | cons c more ih =>
    obtain ⟨hquote, hblank, hmark⟩ := h c List.mem_cons_self
    rw [List.cons_append, tokensFrom, if_neg hquote, hblank, if_neg Bool.false_ne_true, hmark]
    dsimp only
    rw [ih (fun c hc => h c (List.mem_cons_of_mem _ hc)), List.reverse_cons, List.append_assoc]
    rfl

/-- **A bare word is one token**, if something ends it. -/
theorem tokensFrom_word {word : List Char} (hne : word ≠ []) (h : ∀ c ∈ word, IsWordCharacter c)
    {rest : List Char} (hrest : EndsWord rest) :
    tokensFrom .between (word ++ rest) = (tokensFrom .between rest).map (.word word :: ·) := by
  obtain ⟨c, more, rfl⟩ := List.exists_cons_of_ne_nil hne
  obtain ⟨hquote, hblank, hmark⟩ := h c List.mem_cons_self
  rw [List.cons_append, tokensFrom, if_neg hquote, hblank, if_neg Bool.false_ne_true, hmark]
  dsimp only
  rw [tokensFrom_inWord (fun c hc => h c (List.mem_cons_of_mem _ hc)), hrest, List.reverse_append,
    List.reverse_reverse]
  rfl

/-- A numeral is a bare word. -/
theorem isWordCharacter_of_read {text : List Char} {numeral : Numeral}
    (h : Numeral.read text = some numeral) : ∀ c ∈ numeral.render, IsWordCharacter c := by
  intro c hc
  -- the digits are looked through by their code points
  obtain hdigit | hsign := Numeral.forall_mem_render_of_read h c hc
  · have hcode : ∀ n < 58, 48 ≤ n → IsWordCharacter (Char.ofNat n) := by decide
    obtain ⟨hfirst, hlast⟩ := Char.isDigit_iff_toNat.mp hdigit
    have hword := hcode c.toNat (Nat.lt_succ_of_le hlast) hfirst
    rwa [Char.ofNat_toNat] at hword
  · exact isWordCharacter_of_all (by decide) c hsign

/-! ## The tokens of a value -/

mutual

/-- The tokens of a value. -/
def tokenList : Json → List Token
  | .null => [.word "null".toList]
  | .boolean true => [.word "true".toList]
  | .boolean false => [.word "false".toList]
  | .number numeral => [.word numeral.render]
  | .string literal => [.quoted literal]
  | .array [] => [.mark .openArray, .mark .closeArray]
  | .array (item :: rest) => .mark .openArray :: tokenList item ++ itemTokens rest
  | .object [] => [.mark .openObject, .mark .closeObject]
  | .object ((name, value) :: rest) =>
    .mark .openObject :: .quoted name :: .mark .colon :: tokenList value ++ memberTokens rest

/-- The tokens of the items of an array after its first one, and of its closing bracket. -/
def itemTokens : List Json → List Token
  | [] => [.mark .closeArray]
  | item :: rest => .mark .comma :: tokenList item ++ itemTokens rest

/-- The tokens of the members of an object after its first one, and of its closing brace. -/
def memberTokens : List (Quoted × Json) → List Token
  | [] => [.mark .closeObject]
  | (name, value) :: rest =>
    .mark .comma :: .quoted name :: .mark .colon :: tokenList value ++ memberTokens rest

end

/-- All numerals and literals of a value are read as they are written. -/
inductive IsReadable : Json → Prop
  | null : IsReadable .null
  | boolean (value : Bool) : IsReadable (.boolean value)
  | number {numeral : Numeral} (h : Numeral.read numeral.render = some numeral) :
    IsReadable (.number numeral)
  | text (value : String) : IsReadable (.text value)
  | array {items : List Json} (h : ∀ item ∈ items, IsReadable item) : IsReadable (.array items)
  | record {members : List (String × Json)} (h : ∀ member ∈ members, IsReadable member.2) :
    IsReadable (.record members)

/-! ## The tokens of what is written -/

/-- **A mark is one token**, wherever it stands. -/
theorem tokensFrom_mark {c : Char} {m : Mark} (hquote : c ≠ '"') (hblank : isBlank c = false)
    (h : markOf c = some m) (rest : List Char) :
    tokensFrom .between (c :: rest) = (tokensFrom .between rest).map (.mark m :: ·) := by
  rw [tokensFrom, if_neg hquote, hblank, if_neg Bool.false_ne_true, h]

/-- White space at the start of a line is dropped. -/
theorem tokensFrom_newline (depth : Nat) (rest : List Char) :
    tokensFrom .between (newline depth ++ rest) = tokensFrom .between rest := by
  have hspaces : ∀ n, tokensFrom .between (List.replicate n ' ' ++ rest) =
      tokensFrom .between rest := by
    intro n
    induction n with
    | zero => rfl
    | succ n ih =>
      rw [List.replicate_succ]
      exact ih
  exact hspaces (2 * depth)

/-- A value is written as its tokens, whatever follows it, if that ends a word. -/
def IsWritten (value : Json) : Prop :=
  ∀ depth rest, EndsWord rest →
    tokensFrom .between (prettyAt depth value ++ rest) =
      (tokensFrom .between rest).map (value.tokenList ++ ·)

theorem endsWord_prettyItems (depth : Nat) (items : List Json) (rest : List Char) :
    EndsWord (prettyItems depth items ++ rest) := by
  cases items with
  | nil => exact endsWord_blank (by decide) rfl _
  | cons item more => exact endsWord_mark (by decide) rfl rfl _

theorem endsWord_prettyMembers (depth : Nat) (members : List (Quoted × Json)) (rest : List Char) :
    EndsWord (prettyMembers depth members ++ rest) := by
  cases members with
  | nil => exact endsWord_blank (by decide) rfl _
  | cons member more => exact endsWord_mark (by decide) rfl rfl _

theorem tokensFrom_prettyItems {items : List Json} (h : ∀ item ∈ items, IsWritten item) (depth : Nat)
    (rest : List Char) :
    tokensFrom .between (prettyItems depth items ++ rest) =
      (tokensFrom .between rest).map (itemTokens items ++ ·) := by
  induction items with
  | nil =>
    rw [prettyItems, List.append_assoc, tokensFrom_newline]
    rfl
  | cons item more ih =>
    have hitem := h item List.mem_cons_self (depth + 1) _ (endsWord_prettyItems depth more rest)
    have hmore := ih fun other hother => h other (List.mem_cons_of_mem _ hother)
    have hcomma := tokensFrom_mark (c := ',') (by decide) rfl rfl
    rw [prettyItems, itemTokens]
    simp only [List.cons_append, List.append_assoc, hcomma, tokensFrom_newline, hitem, hmore,
      Option.map_map]
    rfl

theorem tokensFrom_member (name : String) {value : Json} (h : IsWritten value) (depth : Nat)
    {rest : List Char} (hrest : EndsWord rest) :
    tokensFrom .between ((Quoted.text name).render ++ ([':', ' '] ++ (prettyAt depth value ++ rest))) =
      (tokensFrom .between rest).map
        (.quoted (.text name) :: .mark .colon :: value.tokenList ++ ·) := by
  have hcolon (text : List Char) : tokensFrom .between ([':', ' '] ++ text) =
      (tokensFrom .between text).map (.mark .colon :: ·) := rfl
  rw [tokensFrom_render, hcolon, h depth rest hrest, Option.map_map, Option.map_map]
  rfl

/-- The members of a record. -/
def namedMembers (members : List (String × Json)) : List (Quoted × Json) :=
  members.map fun (name, value) => (.text name, value)

theorem tokensFrom_prettyMembers {members : List (String × Json)}
    (h : ∀ member ∈ members, IsWritten member.2) (depth : Nat) (rest : List Char) :
    tokensFrom .between (prettyMembers depth (namedMembers members) ++ rest) =
      (tokensFrom .between rest).map (memberTokens (namedMembers members) ++ ·) := by
  induction members with
  | nil =>
    rw [namedMembers, List.map_nil, prettyMembers, List.append_assoc, tokensFrom_newline]
    rfl
  | cons member more ih =>
    have hmember := tokensFrom_member member.1 (h member List.mem_cons_self) (depth + 1)
      (endsWord_prettyMembers depth (namedMembers more) rest)
    have hmore := ih fun other hother => h other (List.mem_cons_of_mem _ hother)
    have hcomma := tokensFrom_mark (c := ',') (by decide) rfl rfl
    have hmembers : namedMembers (member :: more) =
        (.text member.1, member.2) :: namedMembers more := rfl
    rw [hmembers, prettyMembers, memberTokens]
    simp only [List.cons_append, List.append_assoc] at hmember ⊢
    rw [hcomma, tokensFrom_newline]
    rw [hmember, hmore]
    simp only [Option.map_map]
    rfl

theorem isWritten_of_word {value : Json} {word : List Char} (hpretty : ∀ depth, prettyAt depth value = word)
    (htokens : value.tokenList = [.word word]) (hne : word ≠ [])
    (h : ∀ c ∈ word, IsWordCharacter c) : IsWritten value := by
  intro depth rest hrest
  rw [hpretty, htokens, tokensFrom_word hne h hrest]
  rfl

/-- **A readable value is written as its tokens.** -/
theorem IsReadable.isWritten {value : Json} (h : value.IsReadable) : value.IsWritten := by
  -- induction on the value: its parts are written as their tokens, at any depth
  induction h with
  | null => exact isWritten_of_word (fun _ => rfl) rfl (by decide) (isWordCharacter_of_all (by decide))
  | boolean value =>
    cases value <;>
      exact isWritten_of_word (fun _ => rfl) rfl (by decide) (isWordCharacter_of_all (by decide))
  | number h =>
    exact isWritten_of_word (fun _ => rfl) rfl (Numeral.render_ne_nil_of_read h)
      (isWordCharacter_of_read h)
  | text value => exact fun depth rest _ => tokensFrom_render value rest
  | @array items _ ih =>
    intro depth rest _
    have hopen := tokensFrom_mark (c := '[') (by decide) rfl rfl
    cases items with
    | nil => exact Option.map_map _ _ _
    | cons item more =>
      have hitem := ih item List.mem_cons_self (depth + 1) _ (endsWord_prettyItems depth more rest)
      have hmore := tokensFrom_prettyItems
        (fun other hother => ih other (List.mem_cons_of_mem _ hother)) depth rest
      rw [prettyAt, tokenList]
      simp only [List.cons_append, List.append_assoc, hopen, tokensFrom_newline, hitem, hmore,
        Option.map_map]
      rfl
  | @record members _ ih =>
    intro depth rest _
    have hopen := tokensFrom_mark (c := '\x7b') (by decide) rfl rfl
    cases members with
    | nil => exact Option.map_map _ _ _
    | cons member more =>
      have hmember := tokensFrom_member member.1 (ih member List.mem_cons_self) (depth + 1)
        (endsWord_prettyMembers depth (namedMembers more) rest)
      have hmore := tokensFrom_prettyMembers
        (fun other hother => ih other (List.mem_cons_of_mem _ hother)) depth rest
      have hmembers : Json.record (member :: more) =
          Json.object ((.text member.1, member.2) :: namedMembers more) := rfl
      rw [hmembers, prettyAt, tokenList]
      simp only [List.cons_append, List.append_assoc] at hmember ⊢
      rw [hopen, tokensFrom_newline, hmember, hmore]
      simp only [Option.map_map]
      rfl

/-- **The tokens of a file** are those of the value that it was written for. -/
theorem tokens_pretty {value : Json} (h : value.IsReadable) :
    tokens value.pretty.toList = some value.tokenList := by
  have hend : EndsWord ['\n'] := endsWord_blank (by decide) rfl []
  rw [pretty, String.toList_ofList, tokens, h.isWritten 0 ['\n'] hend]
  exact congrArg some (List.append_nil _)

end Concordance.Json
