import Concordance.Json.Reader
import Concordance.Proofs.Json.Tokens

/-!
# Reading what was written

A value that is written on indented lines is read back as it was, whatever texts it has in it and however
deep it goes.

## Main definitions

* `Json.Rebuilds`: a value is built again from its tokens

## Main results

* `IsReadable.rebuilds`: every readable value is
* `read_pretty`: a file is read as the value that it was written for
-/

namespace Concordance.Json

/-! ## Single tokens -/

/-- A numeral is none of the words with a meaning of their own. -/
theorem ofWord_of_read {letters : List Char} {numeral : Numeral}
    (h : Numeral.read letters = some numeral) : ofWord letters = some (.number numeral) := by
  have hne (word : List Char) (hword : Numeral.read word = none) : letters ≠ word := by
    rintro rfl
    rw [h] at hword
    cases hword
  rw [ofWord, if_neg (hne _ (by decide)), if_neg (hne _ (by decide)), if_neg (hne _ (by decide)), h]
  rfl

theorem build_atom {token : Token} {value : Json} (h : token.atom = some value) (frames : List Frame)
    (rest : List Token) :
    build frames .value (token :: rest) = build frames (.done value) rest := by
  cases token with
  | mark m => cases h
  | word letters => simp [build, h]
  | quoted literal => simp [build, h]

/-- What does not close an array is its first item. -/
theorem build_firstItem {token : Token} (h : token ≠ .mark .closeArray) (frames : List Frame)
    (rest : List Token) :
    build frames .firstItem (token :: rest) = build (.items [] :: frames) .value (token :: rest) := by
  cases token with
  | word letters => simp [build]
  | quoted literal => simp [build]
  | mark m =>
    cases m with
    | closeArray => exact absurd rfl h
    | _ => simp [build]

/-- No value starts with a closing bracket. -/
theorem exists_tokenList (value : Json) : ∃ token rest,
    value.tokenList = token :: rest ∧ token ≠ .mark .closeArray := by
  cases value with
  | null => exact ⟨_, _, rfl, by decide⟩
  | boolean value => cases value <;> exact ⟨_, _, rfl, by decide⟩
  | number numeral => exact ⟨_, _, rfl, fun h => by cases h⟩
  | string literal => exact ⟨_, _, rfl, fun h => by cases h⟩
  | array items => cases items <;> exact ⟨_, _, rfl, by decide⟩
  | object members => cases members <;> exact ⟨_, _, rfl, by decide⟩

/-! ## Building values again -/

/-- A value is built again from its tokens, whatever is open around it and whatever follows it. -/
def Rebuilds (value : Json) : Prop :=
  ∀ frames rest, build frames .value (value.tokenList ++ rest) = build frames (.done value) rest

theorem rebuilds_of_atom {value : Json} {token : Token} (htokens : value.tokenList = [token])
    (h : token.atom = some value) : Rebuilds value := by
  intro frames rest
  rw [htokens, List.singleton_append, build_atom h]

/-- The first item of an array. -/
theorem Rebuilds.firstItem {value : Json} (h : Rebuilds value) (frames : List Frame)
    (rest : List Token) : build frames .firstItem (value.tokenList ++ rest) =
      build (.items [] :: frames) (.done value) rest := by
  obtain ⟨token, more, htokens, hopen⟩ := exists_tokenList value
  rw [← h, htokens, List.cons_append, build_firstItem hopen]

/-- The items of an array after some that were built already, the last one right before them. -/
theorem build_itemTokens {items : List Json} (h : ∀ item ∈ items, Rebuilds item)
    (before : List Json) (last : Json) (frames : List Frame) (rest : List Token) :
    build (.items before :: frames) (.done last) (itemTokens items ++ rest) =
      build frames (.done (.array (before.reverse ++ last :: items))) rest := by
  -- each comma moves the last item to those before, so these are arbitrary in the induction
  induction items generalizing before last with
  | nil =>
    rw [itemTokens, List.singleton_append, build, List.reverse_cons]
  | cons item more ih =>
    rw [itemTokens, List.cons_append, List.cons_append, List.append_assoc, build,
      h item List.mem_cons_self, ih fun other hother => h other (List.mem_cons_of_mem _ hother),
      List.reverse_cons, List.append_assoc]
    rfl

/-- The members of an object after some that were built already, the last one right before them. -/
theorem build_memberTokens {members : List (Quoted × Json)} (h : ∀ member ∈ members, Rebuilds member.2)
    (before : List (Quoted × Json)) (name : Quoted) (last : Json) (frames : List Frame)
    (rest : List Token) :
    build (.members before name :: frames) (.done last) (memberTokens members ++ rest) =
      build frames (.done (.object (before.reverse ++ (name, last) :: members))) rest := by
  induction members generalizing before name last with
  | nil =>
    rw [memberTokens, List.singleton_append, build, List.reverse_cons]
  | cons member more ih =>
    obtain ⟨next, value⟩ := member
    have hvalue : Rebuilds value := h _ List.mem_cons_self
    simp only [memberTokens, List.cons_append, List.append_assoc, build, if_true]
    rw [hvalue, ih fun other hother => h other (List.mem_cons_of_mem _ hother), List.reverse_cons,
      List.append_assoc]
    rfl

/-- **Every readable value is built again from its tokens.** -/
theorem IsReadable.rebuilds {value : Json} (h : value.IsReadable) : value.Rebuilds := by
  -- induction on the value: each of its parts is built again, inside whatever is open
  induction h with
  | null => exact rebuilds_of_atom rfl (by rfl)
  | boolean value => cases value <;> exact rebuilds_of_atom rfl (by rfl)
  | number h => exact rebuilds_of_atom rfl (ofWord_of_read h)
  | text value => exact rebuilds_of_atom rfl rfl
  | @array items _ ih =>
    intro frames rest
    cases items with
    | nil => simp [tokenList, build]
    | cons item more =>
      have hmore := build_itemTokens (fun other hother => ih other (List.mem_cons_of_mem _ hother)) []
        item frames rest
      simp only [tokenList, List.cons_append, List.append_assoc, build]
      rw [(ih item List.mem_cons_self).firstItem, hmore]
      rfl
  | @record members _ ih =>
    intro frames rest
    cases members with
    | nil => simp [Json.record, tokenList, build]
    | cons member more =>
      have hall : ∀ other ∈ namedMembers more, Rebuilds other.2 := by
        intro other hother
        obtain ⟨named, hnamed, rfl⟩ := List.mem_map.mp hother
        exact ih named (List.mem_cons_of_mem _ hnamed)
      have hmore := build_memberTokens hall [] (.text member.1) member.2 frames rest
      have hmembers : Json.record (member :: more) =
          Json.object ((.text member.1, member.2) :: namedMembers more) := rfl
      simp only [hmembers, tokenList, List.cons_append, List.append_assoc, build, if_true]
      rw [ih member List.mem_cons_self, hmore]
      rfl

/-- **A file is read as the value that it was written for.** -/
theorem read_pretty {value : Json} (h : value.IsReadable) : read value.pretty = some value := by
  have hbuild := h.rebuilds [] []
  rw [List.append_nil] at hbuild
  rw [read, tokens_pretty h, Option.bind_eq_bind, Option.bind_some, hbuild, build]

end Concordance.Json
