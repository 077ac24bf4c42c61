/-!
# Octet sequences

Messages, file contents and bodies are finite lists of octets. Text enters and
leaves them as UTF-8: strictly, where ill-formed octets are refused, or
leniently, where each ill-formed stretch becomes one replacement character.
Hexadecimal text is the readable form of octets.
-/

namespace MediaGateway

/-- A finite sequence of octets, first octet first. -/
abbrev Bytes := List UInt8

namespace Bytes

/-- The UTF-8 form of a text. -/
def ofText (text : String) : Bytes := text.toUTF8.data.toList

/-- The text whose UTF-8 form the octets are; nothing when they are ill-formed. -/
def toText? (bytes : Bytes) : Option String := String.fromUTF8? ⟨bytes.toArray⟩

/-- Whether an octet continues a character rather than starting one. -/
def isContinuation (octet : UInt8) : Bool := 0x80 ≤ octet && octet ≤ 0xBF

/-- What a leading octet announces: how many octets follow it, the range of the
first of them, and the leading octet's own share of the code point. -/
structure Lead where
  /-- Octets after the leading one. -/
  following : Nat
  /-- Least value of the first following octet. -/
  least : UInt8
  /-- Greatest value of the first following octet. -/
  greatest : UInt8
  /-- Payload bits of the leading octet. -/
  payload : Nat

/-- The announcement of a leading octet. The ranges exclude overlong forms,
surrogates and code points beyond U+10FFFF; an octet that leads nothing gives none. -/
def lead? (octet : UInt8) : Option Lead :=
  let value := octet.toNat
  if value < 0x80 then some ⟨0, 0, 0, value⟩
  else if value < 0xC2 then none
  else if value < 0xE0 then some ⟨1, 0x80, 0xBF, value - 0xC0⟩
  else if value = 0xE0 then some ⟨2, 0xA0, 0xBF, 0⟩
  else if value = 0xED then some ⟨2, 0x80, 0x9F, 13⟩
  else if value < 0xF0 then some ⟨2, 0x80, 0xBF, value - 0xE0⟩
  else if value = 0xF0 then some ⟨3, 0x90, 0xBF, 0⟩
  else if value < 0xF4 then some ⟨3, 0x80, 0xBF, value - 0xF0⟩
  else if value = 0xF4 then some ⟨3, 0x80, 0x8F, 4⟩
  else none

/-- The octets after a leading one that fit its announcement, at most as many as announced. -/
def fitting (announced : Lead) (rest : Bytes) : Bytes :=
  match announced.following, rest with
  | 0, _ => []
  | _ + 1, [] => []
  | more + 1, first :: later =>
    if announced.least ≤ first && first ≤ announced.greatest then
      first :: (later.take more).takeWhile isContinuation
    else []

/-- Characters of octets that may be ill-formed: every longest stretch that begins a
character without finishing it, and every octet that begins none, becomes U+FFFD. -/
def lenientChars : Bytes → List Char
  | [] => []
  | first :: rest =>
    match lead? first with
    | none => '\uFFFD' :: lenientChars rest
    | some announced =>
      let tail := fitting announced rest
      let char :=
        if tail.length = announced.following then
          Char.ofNat
            (tail.foldl (fun code octet => code * 64 + (octet.toNat - 0x80)) announced.payload)
        else '\uFFFD'
      char :: lenientChars (rest.drop tail.length)
termination_by bytes => bytes.length
decreasing_by all_goals simp only [List.length_cons, List.length_drop]; omega

/-- The text of octets that may be ill-formed, with U+FFFD in place of what is not UTF-8. -/
def toTextLenient (bytes : Bytes) : String := String.ofList (lenientChars bytes)

/-- The lower-case hexadecimal digit of a number below sixteen. -/
def hexDigit (value : Nat) : Char :=
  if value < 10 then Char.ofNat (48 + value) else Char.ofNat (87 + value)

/-- The value of a hexadecimal digit of either case. -/
def hexValue? (digit : Char) : Option Nat :=
  let code := digit.toNat
  if 48 ≤ code ∧ code ≤ 57 then some (code - 48)
  else if 97 ≤ code ∧ code ≤ 102 then some (code - 87)
  else if 65 ≤ code ∧ code ≤ 70 then some (code - 55)
  else none

/-- The two lower-case hexadecimal digits of an octet. -/
def hexPair (octet : UInt8) : List Char :=
  [hexDigit (octet.toNat / 16), hexDigit (octet.toNat % 16)]

/-- Lower-case hexadecimal text, two digits an octet. -/
def toHex (bytes : Bytes) : String := String.ofList (bytes.flatMap hexPair)

/-- The octets that pairs of hexadecimal digits stand for; `seen` holds those already read, last
first. -/
def ofHexDigits? (seen : Bytes) : List Char → Option Bytes
  | [] => some seen.reverse
  | [_] => none
  | high :: low :: rest =>
    match hexValue? high, hexValue? low with
    | some upper, some lower => ofHexDigits? (UInt8.ofNat (upper * 16 + lower) :: seen) rest
    | _, _ => none

/-- The octets of a hexadecimal text; nothing for an odd number of digits or a foreign character. -/
def ofHex? (text : String) : Option Bytes := ofHexDigits? [] text.toList

/-- The octets of a number in big-endian order, `width` of them. -/
def ofNatBigEndian (width value : Nat) : Bytes :=
  ((List.range width).map fun place => UInt8.ofNat (value / Nat.pow 256 place)).reverse

/-- The number that octets write in big-endian order. -/
def toNatBigEndian (bytes : Bytes) : Nat :=
  bytes.foldl (fun value octet => value * 256 + octet.toNat) 0

/-- The first `count` octets and those after them; nothing when there are fewer. -/
def splitExact? (count : Nat) (bytes : Bytes) : Option (Bytes × Bytes) :=
  let front := bytes.take count
  if front.length = count then some (front, bytes.drop count) else none

end Bytes

end MediaGateway
