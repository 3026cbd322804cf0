/-!
# Spans of a text

Markup is found span by span. What a span looks like is given by a function from a text to the
length of the span that the text starts with, zero if it starts with none. Spans are taken from
left to right and do not overlap.

## Main definitions

* `replaceSpans`, `removeSpans`: a text with its spans replaced, or deleted
* `findSpans`: the spans of a text
* `lengthWhile`, `lengthUntil`: lengths to build spans from
-/

namespace Concordance.Markup

/-- A text with every span replaced. The next `skipped` characters belong to a span that has been
replaced already. -/
def replaceSpansFrom (spanLength : List Char → Nat) (replacement : List Char → List Char) :
    Nat → List Char → List Char
  | _, [] => []
  | skipped + 1, _ :: rest => replaceSpansFrom spanLength replacement skipped rest
  | 0, c :: rest =>
    match spanLength (c :: rest) with
    | 0 => c :: replaceSpansFrom spanLength replacement 0 rest
    | more + 1 =>
      replacement ((c :: rest).take (more + 1)) ++ replaceSpansFrom spanLength replacement more rest

/-- A text with every span replaced. -/
def replaceSpans (spanLength : List Char → Nat) (replacement : List Char → List Char)
    (text : List Char) : List Char :=
  replaceSpansFrom spanLength replacement 0 text

/-- A text without its spans. -/
def removeSpans (spanLength : List Char → Nat) (text : List Char) : List Char :=
  replaceSpans spanLength (fun _ => []) text

theorem replaceSpansFrom_eq_drop (spanLength : List Char → Nat)
    (replacement : List Char → List Char) (skipped : Nat) (text : List Char) :
    replaceSpansFrom spanLength replacement skipped text
      = replaceSpans spanLength replacement (text.drop skipped) := by
  induction text generalizing skipped with
  | nil => cases skipped <;> rfl
  | cons c rest ih =>
    cases skipped with
    | zero => rfl
    | succ skipped => exact ih skipped

theorem replaceSpans_of_no_span {spanLength : List Char → Nat}
    {replacement : List Char → List Char} {c : Char} {rest : List Char}
    (h : spanLength (c :: rest) = 0) :
    replaceSpans spanLength replacement (c :: rest)
      = c :: replaceSpans spanLength replacement rest := by
  simp [replaceSpans, replaceSpansFrom, h]

/-- A span at the start of a text is replaced, and the search goes on behind it. -/
theorem replaceSpans_of_span {spanLength : List Char → Nat} {replacement : List Char → List Char}
    {text : List Char} (h : 0 < spanLength text) (hne : text ≠ []) :
    replaceSpans spanLength replacement text
      = replacement (text.take (spanLength text))
        ++ replaceSpans spanLength replacement (text.drop (spanLength text)) := by
  obtain ⟨c, rest, rfl⟩ := List.exists_cons_of_ne_nil hne
  obtain ⟨more, hmore⟩ := Nat.exists_eq_succ_of_ne_zero (Nat.ne_of_gt h)
  rw [hmore, List.drop_succ_cons, ← replaceSpansFrom_eq_drop]
  simp only [replaceSpans, replaceSpansFrom, hmore]

/-- The spans of a text. The next `skipped` characters belong to a span that has been found. -/
def findSpansFrom (spanLength : List Char → Nat) : Nat → List Char → List (List Char)
  | _, [] => []
  | skipped + 1, _ :: rest => findSpansFrom spanLength skipped rest
  | 0, c :: rest =>
    match spanLength (c :: rest) with
    | 0 => findSpansFrom spanLength 0 rest
    | more + 1 => (c :: rest).take (more + 1) :: findSpansFrom spanLength more rest

/-- The spans of a text, from left to right. -/
def findSpans (spanLength : List Char → Nat) (text : List Char) : List (List Char) :=
  findSpansFrom spanLength 0 text

/-- How many characters at the start of a text have a property. -/
def lengthWhile (p : Char → Bool) : List Char → Nat
  | [] => 0
  | c :: rest => if p c then lengthWhile p rest + 1 else 0

theorem lengthWhile_eq (p : Char → Bool) (text : List Char) :
    lengthWhile p text = (text.takeWhile p).length := by
  induction text with
  | nil => rfl
  | cons c rest ih => by_cases h : p c = true <;> simp [lengthWhile, h, ih]

theorem drop_lengthWhile (p : Char → Bool) (text : List Char) :
    text.drop (lengthWhile p text) = text.dropWhile p := by
  induction text with
  | nil => rfl
  | cons c rest ih => by_cases h : p c = true <;> simp [lengthWhile, h, ih]

/-- How many characters stand up to the end of the first span; `none` if there is no span. -/
def lengthUntil (spanLength : List Char → Nat) : List Char → Option Nat
  | [] => none
  | c :: rest =>
    match spanLength (c :: rest) with
    | 0 => (lengthUntil spanLength rest).map (· + 1)
    | more + 1 => some (more + 1)

/-- The length of a fixed text, if a text starts with it. -/
def literalLength (literal text : List Char) : Nat :=
  if literal.isPrefixOf text then literal.length else 0

end Concordance.Markup
