import Concordance.Url.Basic
import Concordance.Url.Percent

/-!
# Reading hosts

In a URL of the web a host is a domain name, or an address if it ends in a number. In a URL with
an unknown scheme it may be almost any text.

## Main definitions

* `Host.readDomain`: the host of a URL of the web
* `Host.readFree`: the host of a URL with an unknown scheme
-/

namespace Concordance.Host

/-- The host between brackets, if it is an address. -/
def readBracketed (text : List Char) : Except UrlError Host :=
  if text.getLast? = some ']' then
    match Address.readPieces (text.drop 1).dropLast with
    | some address => .ok (.pieces address)
    | none => .error .invalidPieces
  else .error .invalidPieces

/-- The host that a domain name in ASCII stands for. -/
def ofAscii (domain : List Char) : Except UrlError Host :=
  if domain = [] then .error .emptyHost
  else if Address.endsInNumber domain then
    match Address.readFourBytes domain with
    | some address => .ok (.fourBytes address)
    | none => .error .invalidFourBytes
  else .ok (.name (String.ofList domain))

/-- The host of a URL of the web. -/
def readDomain (text : List Char) : Except UrlError Host :=
  if text.head? = some '[' then readBracketed text
  else
    match (Percent.decodeText text).bind Domain.toAscii with
    | some domain => ofAscii domain
    | none => .error .invalidDomainName

/-- Characters that may not stand in a host. -/
def isForbidden (c : Char) : Bool :=
  c = '\x00' || c ∈ ['\t', '\n', '\r', ' ', '#', '/', ':', '<', '>', '?', '@', '[', '\\', ']', '^', '|']

/-- The host of a URL with an unknown scheme. -/
def readFree (text : List Char) : Except UrlError Host :=
  if text.head? = some '[' then readBracketed text
  else if text.any isForbidden then .error .invalidHostCharacter
  else .ok (.name (String.ofList (Percent.encode Percent.isControl text)))

end Concordance.Host
