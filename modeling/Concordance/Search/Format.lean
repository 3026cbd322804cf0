import Concordance.Json.Number
import Concordance.Json.Reader
import Concordance.Search.Result

/-!
# Results and modes in JSON

A result is an object with its three fields in any order, where further fields are ignored, or an
array of the three values. A mode is its name, or an object that has nothing but that name.

## Main definitions

* `SearchResult.toJson`, `SearchResult.read`: a result in JSON
* `SearchMode.read`: a mode in JSON
-/

namespace Concordance

namespace SearchResult

/-- A result as a value. -/
def toJson (result : SearchResult) : Json :=
  .record [("count", .count result.count), ("score", .score result.score),
    ("where", .text result.location)]

/-- A result from the values of its fields. -/
def ofFields (count score location : Json) : Option SearchResult :=
  match count, score, location with
  | .number count, .number score, .string (.text location) => do
    some ⟨← count.toCount, ← score.toBinary64, location⟩
  | _, _, _ => none

/-- The only value with a name. -/
def onlyValue (name : String) (members : List (Quoted × Json)) : Option Json :=
  match members.filter fun entry => entry.1 = .text name with
  | [(_, value)] => some value
  | _ => none

/-- The result that a value is. -/
def ofJson : Json → Option SearchResult
  | .array [count, score, location] => ofFields count score location
  | .object members =>
    if members.any fun entry => entry.1 = .unpaired then none
    else do
      ofFields (← onlyValue "count" members) (← onlyValue "score" members)
        (← onlyValue "where" members)
  | _ => none

/-- The result that a text is. -/
def read (text : String) : Option SearchResult :=
  (Json.read text).bind ofJson

end SearchResult

namespace SearchMode

/-- The mode with a name. -/
def ofName (name : String) : Option SearchMode :=
  [SearchMode.exact, .partialMatch].find? fun mode => mode.name = name

/-- The mode that a value is. -/
def ofJson : Json → Option SearchMode
  | .string (.text name) => ofName name
  | .object [(.text name, .null)] => ofName name
  | _ => none

/-- The mode that a text is. -/
def read (text : String) : Option SearchMode :=
  (Json.read text).bind ofJson

end SearchMode

end Concordance
