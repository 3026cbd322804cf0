import Concordance.Url.Authority
import Concordance.Url.Path

/-!
# Reading URLs

A text with a scheme is a URL by itself. A text without one, or with the scheme of a web page that
it is found on, is read relative to that page.

## Main definitions

* `Url.parse`: the URL that a text is
* `Url.join`: the URL that a text is on a page
-/

namespace Concordance.Url

/-- A text without the control characters and spaces at its ends, and without the tabs and newlines
inside it. -/
def tidy (text : List Char) : List Char :=
  let isPadding (c : Char) : Bool := c.toNat ≤ 32
  let trimmed := ((text.dropWhile isPadding).reverse.dropWhile isPadding).reverse
  trimmed.filter fun c => !(c ∈ ['\t', '\n', '\r'])

/-- The query and the fragment at the end of a URL. -/
def readTail (kind : SchemeKind) (text : List Char) : Option String × Option String :=
  let queryText := text.takeWhile (· != '#')
  let set := if kind = .free then Percent.inQuery else Percent.inWebQuery
  let query := match queryText with
    | '?' :: query => some (String.ofList (Percent.encode set query))
    | _ => none
  let fragment := match text.dropWhile (· != '#') with
    | _ :: fragment => some (String.ofList (Percent.encode Percent.inFragment fragment))
    | [] => none
  (query, fragment)

/-- A URL from its scheme, its authority, the segments of its path and the text after these. -/
def finish (scheme : String) (authority : Option Authority) (segments : List String)
    (tail : List Char) : Url :=
  let (query, fragment) := readTail (.ofScheme scheme) tail
  ⟨scheme, authority, .segments segments, query, fragment⟩

/-- A text without a slash at its start. -/
def dropSlash (kind : SchemeKind) (text : List Char) : List Char :=
  match text with
  | c :: rest => if kind.isSlash c then rest else c :: rest
  | [] => []

/-- The URL with a given authority, whose path starts right here. Only an unknown scheme goes
without a path. -/
def afterAuthority (scheme : String) (authority : Authority) (text : List Char) : Url :=
  let kind := SchemeKind.ofScheme scheme
  let (path, tail) := splitPath text
  if kind = .free ∧ path = [] then finish scheme (some authority) [] tail
  else finish scheme (some authority) (readSegments kind [] (dropSlash kind path)).segments tail

/-- The URL whose authority starts right here. -/
def afterSlashes (scheme : String) (text : List Char) : Except UrlError Url := do
  let (authority, rest) ← readAuthority scheme text
  return afterAuthority scheme authority rest

/-- The URL with an unknown scheme and the given text after it. -/
def readFreeForm (scheme : String) (text : List Char) : Except UrlError Url :=
  match text with
  | '/' :: '/' :: rest => afterSlashes scheme rest
  | '/' :: rest =>
    let (path, tail) := splitPath rest
    .ok (finish scheme none (readSegments .free [] path).segments tail)
  | _ =>
    let (path, tail) := splitPath text
    let (query, fragment) := readTail .free tail
    .ok ⟨scheme, none, .plain (String.ofList (Percent.encode Percent.isControl path)), query,
      fragment⟩

/-- The authority of a file on no particular host. -/
def noHost : Authority := ⟨"", "", .name "", none⟩

/-- The URL of a file with the given host; a drive at the start of its path takes the host away. -/
def fileAt (host : Host) (before : List String) (text : List Char) : Url :=
  let (path, tail) := splitPath text
  let state := readSegments .file before (dropSlash .file path)
  finish "file" (some { noHost with host := if state.drive then .name "" else host })
    state.segments tail

/-- The URL of a file whose host starts right here. A drive in place of a host belongs to the path,
and the host of this very machine goes without a name. -/
def readFileHost (text : List Char) : Except UrlError Url :=
  let host := text.takeWhile fun c => !SchemeKind.file.endsAuthority c
  if isDrive host = true ∨ host = [] then .ok (fileAt (.name "") [] text)
  else do
    let named ← Host.readDomain host
    return fileAt (if named = .name "localhost" then .name "" else named) [] (text.drop host.length)

/-- Whether a text starts with a drive as a whole segment. -/
def startsWithDrive (text : List Char) : Bool :=
  isDrive (text.takeWhile fun c => !SchemeKind.file.endsAuthority c)

/-- The drive that a path starts with. -/
def driveOf : UrlPath → List String
  | .segments (first :: _) => if isDrive first.toList then [first] else []
  | _ => []

/-- The segments of a path. -/
def segmentsOf : UrlPath → List String
  | .segments names => names
  | .plain _ => []

/-- The host of a URL, the empty name if it has none. -/
def hostOf (url : Url) : Host :=
  match url.authority with
  | some authority => authority.host
  | none => .name ""

/-- A URL with another fragment, introduced by a number sign. -/
def withFragment (url : Url) (text : List Char) : Url :=
  { url with fragment := (readTail (.ofScheme url.scheme) text).2 }

/-- The URL of a file that a text is, perhaps relative to another file. -/
def readFile (base : Option Url) (text : List Char) : Except UrlError Url :=
  match text, base with
  | a :: b :: rest, base =>
    if SchemeKind.file.isSlash a && SchemeKind.file.isSlash b then readFileHost rest
    else relative base (a :: b :: rest)
  | text, base => relative base text
where
  /-- The URL of a file, where the text names no host. -/
  relative (base : Option Url) (text : List Char) : Except UrlError Url :=
    match base with
    | none => .ok (fileAt (.name "") [] text)
    | some base =>
      match text with
      | [] => .ok { base with fragment := none }
      | '#' :: _ => .ok (withFragment base text)
      | '?' :: _ => .ok (finish "file" base.authority (segmentsOf base.path) text)
      | c :: rest =>
        if SchemeKind.file.isSlash c then
          -- A path from the top keeps the drive of the base, unless it names one.
          if startsWithDrive rest then .ok (fileAt (.name "") [] text)
          else if driveOf base.path = [] then .ok (fileAt (hostOf base) [] text)
          else .ok (fileAt (.name "") (driveOf base.path) text)
        else if startsWithDrive text then .ok (fileAt (.name "") [] text)
        else .ok (fileAt (hostOf base) (dropLastSegment (segmentsOf base.path)) text)

/-- The URL that a text without a scheme is on a page. -/
def readRelative (base : Url) (text : List Char) : Except UrlError Url :=
  let kind := SchemeKind.ofScheme base.scheme
  match text with
  | [] => .ok { base with fragment := none }
  | '#' :: _ => .ok (withFragment base text)
  | '?' :: _ => .ok (finish base.scheme base.authority (segmentsOf base.path) text)
  | '/' :: '/' :: rest => afterSlashes base.scheme rest
  | c :: rest =>
    if c = '/' ∨ c = '\\' then
      -- Two slashes begin an authority, and any further ones are skipped.
      if rest.head?.any (fun d => d = '/' || d = '\\') then
        afterSlashes base.scheme (rest.dropWhile fun d => d = '/' || d = '\\')
      else
        let (path, tail) := splitPath rest
        .ok (finish base.scheme base.authority (readSegments kind [] path).segments tail)
    else
      let (path, tail) := splitPath text
      .ok (finish base.scheme base.authority
        (readSegments kind (segmentsOf base.path).dropLast path).segments tail)

/-- The URL with a known scheme, with as many slashes before its authority as there may be. On a
page of the same scheme, fewer than two slashes make it relative. -/
def readWeb (base : Option Url) (scheme : String) (text : List Char) : Except UrlError Url :=
  let isSlash := SchemeKind.web.isSlash
  match base with
  | some page =>
    if page.scheme = scheme ∧ (text.takeWhile isSlash).length < 2 then readRelative page text
    else afterSlashes scheme (text.dropWhile isSlash)
  | none => afterSlashes scheme (text.dropWhile isSlash)

/-- The URL that a text is, on a page if there is one. -/
def readOn (base : Option Url) (text : List Char) : Except UrlError Url :=
  match splitScheme text, base with
  | some (scheme, rest), base =>
    match SchemeKind.ofScheme scheme with
    | .file => readFile (base.filter (·.scheme == "file")) rest
    | .web => readWeb base scheme rest
    | .free => readFreeForm scheme rest
  | none, some page =>
    if text.head? = some '#' then .ok (withFragment page text)
    else if page.hasPlainPath then .error .relativeToPlainPath
    else if page.scheme = "file" then readFile (some page) text
    else readRelative page text
  | none, none => .error .relativeWithoutBase

/-- The URL that a text is. -/
def parse (text : String) : Except UrlError Url :=
  readOn none (tidy text.toList)

/-- The URL that a text is on a page. -/
def join (page : Url) (text : String) : Except UrlError Url :=
  readOn (some page) (tidy text.toList)

end Concordance.Url
