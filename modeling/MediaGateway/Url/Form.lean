import MediaGateway.Url.Percent

/-!
# Form encoding

A list of named values as one query: names and values are encoded, an equals
sign stands between them and an ampersand between pairs. A space becomes a plus
sign, and all but letters, digits and four marks becomes percent signs.
-/

namespace MediaGateway.Url.Form

/-- A named value. -/
abbrev Pair := String × String

/-- Octets that stay as they are. -/
def isPlain (octet : UInt8) : Bool :=
  (0x30 ≤ octet && octet ≤ 0x39) || (0x41 ≤ octet && octet ≤ 0x5A) || (0x61 ≤ octet && octet ≤ 0x7A)
    || octet = 0x2A || octet = 0x2D || octet = 0x2E || octet = 0x5F

/-- The characters that stand for an octet. -/
def encodeOctet (octet : UInt8) : List Char :=
  if isPlain octet then [Char.ofNat octet.toNat]
  else if octet = 0x20 then ['+']
  else percentOctet octet

/-- The characters that stand for a text. -/
def encodeText (text : String) : List Char := (Bytes.ofText text).flatMap encodeOctet

/-- The characters of a pair. -/
def encodePair (pair : Pair) : List Char := encodeText pair.1 ++ '=' :: encodeText pair.2

/-- The characters of pairs. -/
def encodePairs (pairs : List Pair) : List Char :=
  ['&'].intercalate (pairs.map encodePair)

/-- The query of pairs. -/
def encode (pairs : List Pair) : String := String.ofList (encodePairs pairs)

/-- The text of encoded characters: a plus sign is a space, and what is ill-formed is replaced. -/
def decodeText (chars : List Char) : String :=
  let spaced := chars.map fun char => if char = '+' then ' ' else char
  Bytes.toTextLenient (percentDecode (Bytes.ofText (String.ofList spaced)))

/-- The pair of encoded characters; without an equals sign the value is empty. -/
def decodePair (chars : List Char) : Pair :=
  (decodeText (chars.takeWhile (· ≠ '=')), decodeText ((chars.dropWhile (· ≠ '=')).drop 1))

/-- The pairs of a query; nothing between two ampersands is no pair. -/
def decode (query : String) : List Pair :=
  ((query.toList.splitOn '&').filter (· ≠ [])).map decodePair

end MediaGateway.Url.Form
