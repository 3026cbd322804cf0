/-!
# Lines

A text is cut into lines after each newline. A carriage return in front of the newline belongs to
it.

## Main definitions

* `lines`: the lines of a text
-/

namespace Concordance.Query

/-- A line that ended with a newline, given from its last character, without a carriage return. -/
def closeLine (reversed : List Char) : List Char :=
  match reversed with
  | '\r' :: rest => rest.reverse
  | all => all.reverse

/-- The lines of the rest of a text, where `reversed` is the start of the first one. -/
def linesFrom (reversed : List Char) : List Char → List (List Char)
  | [] => if reversed = [] then [] else [reversed.reverse]
  | '\n' :: rest => closeLine reversed :: linesFrom [] rest
  | c :: rest => linesFrom (c :: reversed) rest

/-- The lines of a text. A newline at the end does not start another line. -/
def lines (text : String) : List String :=
  (linesFrom [] text.toList).map String.ofList

end Concordance.Query
