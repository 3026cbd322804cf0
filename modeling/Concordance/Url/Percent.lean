import Concordance.Json.Quoted

/-!
# Percent encoding

A character that may not stand for itself in a part of a URL is written as the bytes of its UTF-8
form, each as a percent sign and two hexadecimal digits. Characters outside ASCII are always
written that way.

## Main definitions

* `Percent.encode`: a text with some characters encoded
* `Percent.decode`: the bytes that a text stands for
* `Percent.decodeText`: the text that a text stands for
-/

namespace Concordance.Percent

/-- A control character of ASCII. -/
def isControl (c : Char) : Bool :=
  c.toNat < 32 || c.toNat == 127

/-- Characters encoded in a fragment. -/
def inFragment (c : Char) : Bool :=
  isControl c || c ∈ [' ', '"', '<', '>', '\x60']

/-- Characters encoded in a path. -/
def inPath (c : Char) : Bool :=
  inFragment c || c ∈ ['#', '?', '\x7b', '\x7d']

/-- Characters encoded in a user name or a password. -/
def inUserInfo (c : Char) : Bool :=
  inPath c || c ∈ ['/', ':', ';', '=', '@', '[', '\\', ']', '^', '|']

/-- Characters encoded in a query. -/
def inQuery (c : Char) : Bool :=
  isControl c || c ∈ [' ', '"', '#', '<', '>']

/-- Characters encoded in a query of a web address. -/
def inWebQuery (c : Char) : Bool :=
  inQuery c || c = '\''

/-- A hexadecimal digit in uppercase. -/
def upperHexDigit (value : Nat) : Char :=
  (Nat.digitChar value).toUpper

/-- A byte as a percent sign and two digits. -/
def encodeByte (byte : UInt8) : List Char :=
  ['%', upperHexDigit (byte.toNat / 16), upperHexDigit (byte.toNat % 16)]

/-- A character, encoded if it has to be. -/
def encodeChar (encoded : Char → Bool) (c : Char) : List Char :=
  if 128 ≤ c.toNat || encoded c then (String.utf8EncodeChar c).flatMap encodeByte else [c]

/-- A text with every character encoded that has to be. -/
def encode (encoded : Char → Bool) (text : List Char) : List Char :=
  text.flatMap (encodeChar encoded)

/-- The bytes that a text stands for. A percent sign without two digits stands for itself. -/
def decode : List Char → List UInt8
  | '%' :: a :: b :: rest =>
    match Quoted.hexDigit a, Quoted.hexDigit b with
    | some high, some low => UInt8.ofNat (high * 16 + low) :: decode rest
    | _, _ => String.utf8EncodeChar '%' ++ decode (a :: b :: rest)
  | c :: rest => String.utf8EncodeChar c ++ decode rest
  | [] => []

/-- The text that bytes are in UTF-8. -/
def textOfBytes (bytes : List UInt8) : Option String :=
  String.fromUTF8? ⟨bytes.toArray⟩

/-- The text that a text stands for, if its bytes are one. -/
def decodeText (text : List Char) : Option (List Char) :=
  (textOfBytes (decode text)).map String.toList

end Concordance.Percent
