import MediaGateway.Net.Address
import MediaGateway.Url.Domain
import MediaGateway.Url.Percent

/-!
# Hosts

A host is an address of the newer kind in brackets, or else a name. A name of
the web is decoded, brought to ASCII, and taken for an address of the older kind
when its last part is a number. In other addresses a
name stays as it is.
-/

namespace MediaGateway.Url

/-- Why a text is no address. -/
inductive Problem where
  /-- It does not begin with a scheme. -/
  | relative
  /-- There must be a host and there is none. -/
  | emptyHost
  /-- The port is no number below 65536. -/
  | badPort
  /-- The host is no name of a domain. -/
  | badDomain
  /-- The host ends in a number and is no address. -/
  | badIpv4
  /-- What stands in brackets is no address. -/
  | badIpv6
  /-- The host holds a character that separates. -/
  | badHostCharacter
  deriving DecidableEq, Repr

/-- The words for a problem. -/
def Problem.text : Problem → String
  | relative => "relative URL without a base"
  | emptyHost => "empty host"
  | badPort => "invalid port number"
  | badDomain => "invalid international domain name"
  | badIpv4 => "invalid IPv4 address"
  | badIpv6 => "invalid IPv6 address"
  | badHostCharacter => "invalid domain character"

/-- Characters that no host holds. -/
def separatesHost (char : Char) : Bool :=
  char = ' ' || "#/:<>?@[\\]^|".contains char

/-- Whether a domain of the web must not hold a character. -/
def forbiddenInDomain (char : Char) : Bool :=
  separatesHost char || char = '%' || char.toNat < 0x20 || char.toNat = 0x7F

/-- A domain in ASCII. -/
def asciiDomain (octets : Bytes) : Except Problem (List Char) :=
  match (Bytes.toText? octets).bind (Domain.read? forbiddenInDomain) with
  | some labels => .ok (Domain.ascii labels)
  | none => .error .badDomain

/-- One number of an address of the older kind: hexadecimal after `0x`, octal after `0`, else
decimal; the bare signs of a base are zero. -/
def readPart (part : List Char) : Option Nat :=
  let inBase (base : Nat) (digits : List Char) : Option Nat :=
    digits.foldl (fun value digit => do
      let before ← value
      let next ← Bytes.hexValue? digit
      if next < base then some (before * base + next) else none) (some 0)
  match part with
  | [] => none
  | '0' :: 'x' :: digits => inBase 16 digits
  | '0' :: 'X' :: digits => inBase 16 digits
  | '0' :: digit :: digits => inBase 8 (digit :: digits)
  | digits => inBase 10 digits

/-- The parts of a name between full stops, without an empty one at the end. -/
def nameParts (name : List Char) : List (List Char) :=
  let parts := name.splitOn '.'
  if parts.getLast? = some [] then parts.dropLast else parts

/-- Whether a name ends in a number, so that it must be an address. -/
def endsInNumber (name : List Char) : Bool :=
  match (nameParts name).getLast? with
  | none => false
  | some last => (last ≠ [] && last.all Char.isDigit) || (readPart last).isSome

/-- The address of the older kind that numbers write: each but the last is an octet, and the
last one fills what remains. -/
def ipv4OfNumbers? (numbers : List Nat) : Option Net.Ipv4 :=
  match numbers.getLast? with
  | none => none
  | some last =>
    let octets := numbers.dropLast
    if 4 < numbers.length ∨ octets.any (255 < ·) ∨ Nat.pow 256 (4 - octets.length) ≤ last then none
    else
      let value :=
        octets.zipIdx.foldl (fun sum (octet, place) => sum + octet * Nat.pow 256 (3 - place)) last
      some ⟨UInt8.ofNat (value / Nat.pow 256 3), UInt8.ofNat (value / Nat.pow 256 2),
        UInt8.ofNat (value / 256), UInt8.ofNat value⟩

/-- The address of the older kind that a name writes. -/
def readIpv4 (name : List Char) : Option Net.Ipv4 :=
  match (nameParts name).mapM readPart with
  | none => none
  | some numbers => ipv4OfNumbers? numbers

/-- The text of an address of the newer kind with all its groups in hexadecimal. -/
def ipv6Text (address : Net.Ipv6) : String :=
  let run := Net.longestRun 0 (0, 0) (0, 0) address.groups
  if run.2 < 2 then Net.groupsText address.groups
  else Net.groupsText (address.groups.take run.1) ++ "::"
    ++ Net.groupsText (address.groups.drop (run.1 + run.2))

/-- The host that characters with a bracket in front write. -/
def readBracketed (inside : List Char) : Except Problem String :=
  if inside.getLast? ≠ some ']' then .error .badIpv6
  else match Net.takeIpv6 inside.dropLast with
    | some (address, []) => .ok ("[" ++ ipv6Text address ++ "]")
    | _ => .error .badIpv6

/-- The host that characters write in an address of the web or of a file. -/
def readHost : List Char → Except Problem String
  | '[' :: inside => readBracketed inside
  | chars => do
    let name ← asciiDomain (percentDecode (Bytes.ofText (String.ofList chars)))
    if name = [] then .error .emptyHost
    else if endsInNumber name then
      match readIpv4 name with
      | some address => .ok address.text
      | none => .error .badIpv4
    else .ok (String.ofList name)

/-- The host that characters write in any other address. -/
def readPlainHost : List Char → Except Problem String
  | '[' :: inside => readBracketed inside
  | chars =>
    if chars.any fun char => separatesHost char || char.toNat = 0 then .error .badHostCharacter
    else .ok (percentEncode isUnprintable chars)

end MediaGateway.Url
