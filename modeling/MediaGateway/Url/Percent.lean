import MediaGateway.Bytes

/-!
# Percent encoding

A character that a part of an address must not hold as it is becomes the octets
of its UTF-8 form, each written as a percent sign and two hexadecimal digits.
Each part of an address reserves characters of its own; control characters and
all beyond ASCII are reserved everywhere.
-/

namespace MediaGateway.Url

/-- Control characters and characters beyond ASCII. -/
def isUnprintable (char : Char) : Bool := char.toNat < 0x20 || 0x7E < char.toNat

/-- What a fragment reserves. -/
def reservedInFragment (char : Char) : Bool :=
  isUnprintable char || char = ' ' || char = '"' || char = '<' || char = '>' || char = '\x60'

/-- What a path reserves. -/
def reservedInPath (char : Char) : Bool :=
  reservedInFragment char || char = '#' || char = '?' || char = '\x7b' || char = '\x7d'

/-- What a single segment of a path reserves that is put in as a whole; the backslash only
where it separates segments. -/
def reservedInSegment (backslash : Bool) (char : Char) : Bool :=
  reservedInPath char || char = '/' || char = '%' || (backslash && char = '\\')

/-- What a query reserves; the apostrophe only in addresses of the web kind. -/
def reservedInQuery (apostrophe : Bool) (char : Char) : Bool :=
  isUnprintable char || char = ' ' || char = '"' || char = '#' || char = '<' || char = '>'
    || (apostrophe && char = '\x27')

/-- The upper-case hexadecimal digit of a number below sixteen. -/
def hexCapital (value : Nat) : Char :=
  if value < 10 then Char.ofNat (48 + value) else Char.ofNat (55 + value)

/-- The three characters that stand for an octet. -/
def percentOctet (octet : UInt8) : List Char :=
  ['%', hexCapital (octet.toNat / 16), hexCapital (octet.toNat % 16)]

/-- The characters that stand for one character. -/
def percentChar (reserved : Char → Bool) (char : Char) : List Char :=
  if reserved char then (String.utf8EncodeChar char).flatMap percentOctet else [char]

/-- The encoded form of characters. -/
def percentEncode (reserved : Char → Bool) (chars : List Char) : String :=
  String.ofList (chars.flatMap (percentChar reserved))

/-- The octets that encoded octets stand for. A percent sign without two digits after it
stands for itself. -/
def percentDecode : Bytes → Bytes
  | [] => []
  | 0x25 :: high :: low :: rest =>
    match Bytes.hexValue? (Char.ofNat high.toNat), Bytes.hexValue? (Char.ofNat low.toNat) with
    | some upper, some lower => UInt8.ofNat (upper * 16 + lower) :: percentDecode rest
    | _, _ => 0x25 :: percentDecode (high :: low :: rest)
  | octet :: rest => octet :: percentDecode rest

end MediaGateway.Url
