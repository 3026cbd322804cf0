import Concordance.Url.Host
import Concordance.Url.Scheme

/-!
# Reading authorities

Everything before the last at sign of an authority is a user name and a password. The host comes
next, up to a colon outside brackets, and then perhaps a port.

## Main definitions

* `readCredentials`: the user name and the password at the start of a text
* `readPort`: the port at the start of a text
* `readAuthority`: the authority at the start of a text
-/

namespace Concordance

/-- The text before the last at sign, and the text after it, if there is one. -/
def splitLastAt (text : List Char) : Option (List Char × List Char) :=
  if '@' ∈ text then
    let after := (text.reverse.takeWhile (· != '@')).reverse
    some (text.take (text.length - after.length - 1), after)
  else none

/-- The user name and the password at the start of a text, encoded, and the rest of the text. -/
def readCredentials (kind : SchemeKind) (text : List Char) :
    Except UrlError (String × String × List Char) :=
  match splitLastAt (text.takeWhile fun c => !kind.endsAuthority c) with
  | none => .ok ("", "", text)
  | some (before, _) =>
    let rest := text.drop (before.length + 1)
    if before = [] ∧ rest.head?.any kind.endsAuthority = true then .error .emptyHost
    else
      let encode part := String.ofList (Percent.encode Percent.inUserInfo part)
      .ok (encode (before.takeWhile (· != ':')), encode ((before.dropWhile (· != ':')).drop 1), rest)

/-- How many characters at the start of a text are a host. -/
def hostLength (kind : SchemeKind) (inBrackets : Bool) : List Char → Nat
  | [] => 0
  | c :: rest =>
    if c = ':' ∧ inBrackets = false ∨ kind.endsAuthority c = true then 0
    else hostLength kind (c = '[' || inBrackets && c != ']') rest + 1

/-- The host that a text is. -/
def readHost (kind : SchemeKind) (text : List Char) : Except UrlError Host :=
  match kind with
  | .free => Host.readFree text
  | _ => if text = [] then .error .emptyHost else Host.readDomain text

/-- The port at the start of a text, and the rest of the text. The port that the scheme stands for
is left out. -/
def readPort (scheme : String) (text : List Char) : Except UrlError (Option Nat × List Char) :=
  let digits := text.takeWhile Char.isDigit
  let rest := text.dropWhile Char.isDigit
  if 65535 < digitsValue digits then .error .invalidPort
  else if rest.head?.any (fun c => !(c ∈ ['/', '\\', '?', '#'])) then .error .invalidPort
  else if digits = [] ∨ defaultPort scheme = some (digitsValue digits) then .ok (none, rest)
  else .ok (some (digitsValue digits), rest)

/-- The authority at the start of a text, and the rest of the text. A host without a name has
neither a port nor a user. -/
def readAuthority (scheme : String) (text : List Char) :
    Except UrlError (Authority × List Char) := do
  let kind := SchemeKind.ofScheme scheme
  let (user, password, text) ← readCredentials kind text
  let length := hostLength kind false text
  let host ← readHost kind (text.take length)
  let rest := text.drop length
  if rest.head? = some ':' then
    if host = .name "" then throw .emptyHost
    let (port, rest) ← readPort scheme (rest.drop 1)
    return (⟨user, password, host, port⟩, rest)
  if host = .name "" ∧ (user ≠ "" ∨ password ≠ "") then throw .emptyHost
  return (⟨user, password, host, none⟩, rest)

end Concordance
