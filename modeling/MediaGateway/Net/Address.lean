import MediaGateway.Bytes
import MediaGateway.Text.Numeral

/-!
# Network addresses

An address of the older kind is four octets, one of the newer kind eight groups
of sixteen bits, and a socket address adds a port and, for the newer kind, a
scope. Texts are read in full or refused; the newer kind is written with its
longest run of zero groups, if it has two or more, left out.
-/

namespace MediaGateway.Net

/-- Four octets. -/
structure Ipv4 where
  /-- First octet. -/
  a : UInt8
  /-- Second octet. -/
  b : UInt8
  /-- Third octet. -/
  c : UInt8
  /-- Fourth octet. -/
  d : UInt8
  deriving DecidableEq, Repr

/-- Eight groups of sixteen bits, the first of them first. -/
structure Ipv6 where
  /-- The groups. -/
  groups : List UInt16
  /-- There are eight. -/
  eight : groups.length = 8
  deriving DecidableEq, Repr

/-- An address and a port. -/
inductive SocketAddress where
  /-- The older kind. -/
  | v4 (host : Ipv4) (port : UInt16)
  /-- The newer kind, with the number of its scope. -/
  | v6 (host : Ipv6) (port : UInt16) (scope : UInt32)
  deriving DecidableEq, Repr

/-- The octets in order. -/
def Ipv4.octets (address : Ipv4) : List UInt8 := [address.a, address.b, address.c, address.d]

/-- The dotted form. -/
def Ipv4.text (address : Ipv4) : String :=
  String.intercalate "." (address.octets.map fun octet => toString octet.toNat)

/-- Lower-case hexadecimal digits of a group, none in front of the first that counts. -/
def groupText (group : UInt16) : String := String.ofList (Nat.toDigits 16 group.toNat)

/-- Groups with colons between them. -/
def groupsText (groups : List UInt16) : String := String.intercalate ":" (groups.map groupText)

/-- Start and length of the longest run of zero groups from a place on, the first of equals;
`run` is the one that reaches up to that place and `best` the longest before. -/
def longestRun (place : Nat) (run best : Nat × Nat) : List UInt16 → Nat × Nat
  | [] => if best.2 < run.2 then run else best
  | group :: rest =>
    if group = 0 then
      let start := if run.2 = 0 then place else run.1
      longestRun (place + 1) (start, run.2 + 1) best rest
    else longestRun (place + 1) (place, 0) (if best.2 < run.2 then run else best) rest

/-- The older address that an address of the newer kind stands for, if it does. -/
def Ipv6.mapped? (address : Ipv6) : Option Ipv4 :=
  match address.groups with
  | [0, 0, 0, 0, 0, 0xFFFF, high, low] =>
    some ⟨(high >>> 8).toUInt8, high.toUInt8, (low >>> 8).toUInt8, low.toUInt8⟩
  | _ => none

/-- The usual form: a mapped address shows the older one, else the longest run of at least two
zero groups is left out between two colons. -/
def Ipv6.text (address : Ipv6) : String :=
  match address.mapped? with
  | some older => "::ffff:" ++ older.text
  | none =>
    let run := longestRun 0 (0, 0) (0, 0) address.groups
    if run.2 < 2 then groupsText address.groups
    else groupsText (address.groups.take run.1) ++ "::"
      ++ groupsText (address.groups.drop (run.1 + run.2))

/-- The text of a socket address; a scope of zero is not shown. -/
def SocketAddress.text : SocketAddress → String
  | .v4 host port => host.text ++ ":" ++ toString port.toNat
  | .v6 host port scope =>
    let suffix := if scope = 0 then "" else "%" ++ toString scope.toNat
    "[" ++ host.text ++ suffix ++ "]:" ++ toString port.toNat

/-- The port. -/
def SocketAddress.port : SocketAddress → UInt16
  | .v4 _ port => port
  | .v6 _ port _ => port

/-- Whether any machine may listen on an address: it leads back to the machine, stands for all of
its addresses, or names a group of machines or all of them. -/
def Ipv4.isListenable (address : Ipv4) : Bool :=
  address.a = 127 || (224 ≤ address.a && address.a ≤ 239)
    || address.octets = [0, 0, 0, 0] || address.octets = [255, 255, 255, 255]

/-- Whether any machine may listen on an address of the newer kind; a group of machines cannot be
listened on there, since it needs a choice of network. -/
def Ipv6.isListenable (address : Ipv6) : Bool :=
  match address.mapped? with
  | some older => older.isListenable
  | none => address.groups.take 7 = List.replicate 7 0 && address.groups.getLast?.any (· ≤ 1)

/-- Whether any machine may listen on the address. -/
def SocketAddress.isListenable : SocketAddress → Bool
  | .v4 host _ => host.isListenable
  | .v6 host _ _ => host.isListenable

/-- The address of the older kind at which a listener meets those who use that kind; the one that
stands for all addresses of the newer kind stands for all of the older kind too. -/
def SocketAddress.older? : SocketAddress → Option Ipv4
  | .v4 host _ => some host
  | .v6 host _ _ =>
    if host.groups = List.replicate 8 0 then some ⟨0, 0, 0, 0⟩ else host.mapped?

/-- Whether a listener on a socket address is in the way of another who listens at one address of
the older kind: the ports agree, and the addresses do or the first stands for all. -/
def SocketAddress.blocks (address : SocketAddress) (host : Ipv4) (port : UInt16) : Bool :=
  address.port = port && address.older?.any fun older =>
    older = host || older.octets = [0, 0, 0, 0]

/-- A decimal number below a bound in front of characters, and what follows it. -/
def takeNumber (bound : Nat) (chars : List Char) : Option (Nat × List Char) :=
  let digits := chars.takeWhile Char.isDigit
  if digits = [] then none
  else match Text.readDigits bound 0 digits with
    | .ok value => some (value, chars.dropWhile Char.isDigit)
    | .error _ => none

/-- One octet of a dotted form: up to three digits, no zero in front of others. -/
def takeOctet (chars : List Char) : Option (UInt8 × List Char) :=
  let digits := chars.takeWhile Char.isDigit
  if 3 < digits.length then none
  else if digits.head? = some '0' ∧ 1 < digits.length then none
  else (takeNumber 256 chars).map fun (value, rest) => (UInt8.ofNat value, rest)

/-- What follows a given character in front. -/
def takeChar (char : Char) : List Char → Option (List Char)
  | first :: rest => if first = char then some rest else none
  | [] => none

/-- A dotted form in front of characters. -/
def takeIpv4 (chars : List Char) : Option (Ipv4 × List Char) := do
  let (a, chars) ← takeOctet chars
  let chars ← takeChar '.' chars
  let (b, chars) ← takeOctet chars
  let chars ← takeChar '.' chars
  let (c, chars) ← takeOctet chars
  let chars ← takeChar '.' chars
  let (d, chars) ← takeOctet chars
  return (⟨a, b, c, d⟩, chars)

/-- One group: one to four hexadecimal digits. -/
def takeGroup (chars : List Char) : Option (UInt16 × List Char) :=
  let digits := chars.takeWhile fun char => (Bytes.hexValue? char).isSome
  if digits = [] ∨ 4 < digits.length then none
  else
    let value := digits.foldl (fun value char => value * 16 + (Bytes.hexValue? char).getD 0) 0
    some (UInt16.ofNat value, chars.drop digits.length)

/-- The two groups that an older address fills. -/
def Ipv4.groups (address : Ipv4) : List UInt16 :=
  [address.a.toUInt16 * 256 + address.b.toUInt16, address.c.toUInt16 * 256 + address.d.toUInt16]

/-- A run of groups: the groups, and whether the last two were written as an older address. -/
structure GroupRun where
  /-- The groups. -/
  groups : List UInt16
  /-- Whether an older address ended the run. -/
  endsOlder : Bool

/-- Groups with colons between them, at most `room` more of them; `started` says whether one
came before. An older address may stand for two groups and ends the run. A colon is given back
when no group follows it. -/
def takeGroups : (room : Nat) → (started : Bool) → List Char → GroupRun × List Char
  | 0, _, chars => (⟨[], false⟩, chars)
  | room + 1, started, chars =>
    match if started then takeChar ':' chars else some chars with
    | none => (⟨[], false⟩, chars)
    | some after =>
      match if 1 ≤ room then takeIpv4 after else none with
      | some (older, rest) => (⟨older.groups, true⟩, rest)
      | none =>
        match takeGroup after with
        | none => (⟨[], false⟩, chars)
        | some (group, rest) =>
          let (run, left) := takeGroups room true rest
          (⟨group :: run.groups, run.endsOlder⟩, left)

/-- Eight groups as an address. -/
def Ipv6.ofGroups? (groups : List UInt16) : Option Ipv6 :=
  if eight : groups.length = 8 then some ⟨groups, eight⟩ else none

/-- A newer address in front of characters: eight groups, or fewer around one pair of colons
that stands for the zero groups left out. An older address may stand at the very end only. -/
def takeIpv6 (chars : List Char) : Option (Ipv6 × List Char) := do
  let (front, rest) := takeGroups 8 false chars
  if front.groups.length = 8 then
    return (← Ipv6.ofGroups? front.groups, rest)
  if front.endsOlder then none
  let rest ← takeChar ':' rest
  let rest ← takeChar ':' rest
  let (back, rest) := takeGroups (8 - (front.groups.length + 1)) false rest
  let zeros := List.replicate (8 - front.groups.length - back.groups.length) 0
  return (← Ipv6.ofGroups? (front.groups ++ zeros ++ back.groups), rest)

/-- A port at the end of a text. -/
def endPort (chars : List Char) : Option UInt16 := do
  let (value, rest) ← takeNumber 65536 chars
  if rest = [] then some (UInt16.ofNat value) else none

/-- The socket address of the older kind that characters write. -/
def readV4 (chars : List Char) : Option SocketAddress := do
  let (host, rest) ← takeIpv4 chars
  let rest ← takeChar ':' rest
  let port ← endPort rest
  return .v4 host port

/-- A scope after a percent sign, zero when there is none. -/
def takeScope (chars : List Char) : Option (UInt32 × List Char) :=
  match chars with
  | '%' :: rest =>
    (takeNumber (Nat.pow 2 32) rest).map fun (value, left) => (UInt32.ofNat value, left)
  | _ => some (0, chars)

/-- The socket address of the newer kind that characters write. -/
def readV6 (chars : List Char) : Option SocketAddress := do
  let rest ← takeChar '[' chars
  let (host, rest) ← takeIpv6 rest
  let (scope, rest) ← takeScope rest
  let rest ← takeChar ']' rest
  let rest ← takeChar ':' rest
  let port ← endPort rest
  return .v6 host port scope

/-- The socket address that a text writes; nothing for any other text. -/
def SocketAddress.read? (text : String) : Option SocketAddress :=
  readV4 text.toList <|> readV6 text.toList

end MediaGateway.Net
