import Concordance.Url.Address

/-!
# URLs

A URL names a page, a file or anything else that has a scheme of its own.

## Main definitions

* `Url`: a URL in its parts
* `Url.text`: its text
* `Url.withoutFragment`: a URL as the name of a location
* `UrlError`: why a text is no URL
-/

namespace Concordance

/-- A host: a name, or an address of one of two kinds. -/
inductive Host where
  | name (text : String)
  | fourBytes (address : Nat)
  | pieces (address : List Nat)
deriving DecidableEq, Repr, Inhabited

/-- Where a URL leads, and as whom. -/
structure Authority where
  user : String
  password : String
  host : Host
  port : Option Nat
deriving DecidableEq, Repr, Inhabited

/-- The path of a URL: a text without structure, or segments with a slash before each. -/
inductive UrlPath where
  | plain (text : String)
  | segments (names : List String)
deriving DecidableEq, Repr, Inhabited

/-- A URL in its parts. -/
structure Url where
  scheme : String
  authority : Option Authority
  path : UrlPath
  query : Option String
  fragment : Option String
deriving DecidableEq, Repr, Inhabited

/-- Why a text is no URL. -/
inductive UrlError where
  | emptyHost
  | invalidDomainName
  | invalidPort
  | invalidFourBytes
  | invalidPieces
  | invalidHostCharacter
  | relativeWithoutBase
  | relativeToPlainPath
deriving DecidableEq, Repr

/-- The text of an error. -/
def UrlError.message : UrlError → String
  | .emptyHost => "empty host"
  | .invalidDomainName => "invalid international domain name"
  | .invalidPort => "invalid port number"
  | .invalidFourBytes => "invalid IPv4 address"
  | .invalidPieces => "invalid IPv6 address"
  | .invalidHostCharacter => "invalid domain character"
  | .relativeWithoutBase => "relative URL without a base"
  | .relativeToPlainPath => "relative URL with a cannot-be-a-base base"

/-- The text of a host. -/
def Host.text : Host → String
  | .name text => text
  | .fourBytes address => String.ofList (Address.writeFourBytes address)
  | .pieces address => "[" ++ String.ofList (Address.writePieces address) ++ "]"

/-- The text of an authority. -/
def Authority.text (authority : Authority) : String :=
  let password := if authority.password = "" then "" else ":" ++ authority.password
  let credentials := authority.user ++ password
  let port := match authority.port with
    | some port => ":" ++ toString port
    | none => ""
  (if credentials = "" then "" else credentials ++ "@") ++ authority.host.text ++ port

/-- The text of a path. -/
def UrlPath.text : UrlPath → String
  | .plain text => text
  | .segments names => String.join (names.map ("/" ++ ·))

namespace Url

/-- What stands between the scheme and the path. A path that starts with two slashes would be taken
for an authority, so where there is none, a segment that means nothing is put before it. -/
def leadText (url : Url) : String :=
  match url.authority, url.path with
  | some authority, _ => "//" ++ authority.text
  | none, .segments ("" :: _ :: _) => "/."
  | none, _ => ""

/-- The text of an optional part, after the character that introduces it. -/
def partText (mark : String) : Option String → String
  | some text => mark ++ text
  | none => ""

/-- The text of a URL. -/
def text (url : Url) : String :=
  url.scheme ++ ":" ++ url.leadText ++ url.path.text ++ partText "?" url.query
    ++ partText "#" url.fragment

/-- Whether the path is a text without structure. -/
def hasPlainPath (url : Url) : Bool :=
  match url.path with
  | .plain _ => true
  | .segments _ => false

/-- A text without the spaces at its end. -/
def dropLastSpaces (text : String) : String :=
  String.ofList (text.toList.reverse.dropWhile (· == ' ')).reverse

/-- A URL as the name of a location: the fragment is taken off. A plain path at the end of the URL
then loses the spaces at its end. -/
def withoutFragment (url : Url) : Url :=
  match url.path, url.query with
  | .plain text, none => { url with path := .plain (dropLastSpaces text), fragment := none }
  | _, _ => { url with fragment := none }

/-- Whether a URL names a page of the web. -/
def isWeb (url : Url) : Bool :=
  url.scheme == "http" || url.scheme == "https"

end Url

end Concordance
