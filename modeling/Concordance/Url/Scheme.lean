/-!
# Schemes

Some schemes are known: they take a backslash for a slash, and their URLs always have a path. Among
these, the scheme of files has rules of its own.

## Main definitions

* `SchemeKind`: how URLs of a scheme are read
* `SchemeKind.ofScheme`: the kind of a scheme
* `defaultPort`: the port that a scheme stands for
* `splitScheme`: the scheme that a text starts with
-/

namespace Concordance

/-- How URLs of a scheme are read. -/
inductive SchemeKind where
  | web
  | file
  | free
deriving DecidableEq, Repr

/-- The port that a scheme stands for. -/
def defaultPort (scheme : String) : Option Nat :=
  match scheme with
  | "http" | "ws" => some 80
  | "https" | "wss" => some 443
  | "ftp" => some 21
  | _ => none

namespace SchemeKind

/-- The kind of a scheme. -/
def ofScheme (scheme : String) : SchemeKind :=
  if scheme = "file" then .file else if (defaultPort scheme).isSome then .web else .free

/-- Whether a character separates segments of a path. -/
def isSlash (kind : SchemeKind) (c : Char) : Bool :=
  c = '/' || kind != .free && c = '\\'

/-- Whether a character ends an authority. -/
def endsAuthority (kind : SchemeKind) (c : Char) : Bool :=
  kind.isSlash c || c = '?' || c = '#'

end SchemeKind

/-- A character of a scheme after the first one. -/
def isSchemeChar (c : Char) : Bool :=
  c.isAlphanum || c = '+' || c = '-' || c = '.'

/-- The scheme that a text starts with, in lowercase, and what comes after its colon. -/
def splitScheme (text : List Char) : Option (String × List Char) :=
  match text.head?, text.dropWhile isSchemeChar with
  | some c, ':' :: rest =>
    if c.isAlpha then some (String.ofList ((text.takeWhile isSchemeChar).map Char.toLower), rest)
    else none
  | _, _ => none

end Concordance
