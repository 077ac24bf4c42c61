import MediaGateway.Bytes

/-!
# Base64

Three octets become four symbols of six bits. In the padded form the last group
is filled up with equals signs; the bare form ends where the bits end. Reading
accepts the padded form only.
-/

namespace MediaGateway.Base64

/-- The symbol of a six-bit value in the standard alphabet. -/
def symbol (value : Nat) : Char :=
  if value < 26 then Char.ofNat (65 + value)
  else if value < 52 then Char.ofNat (71 + value)
  else if value < 62 then Char.ofNat (value - 4)
  else if value = 62 then '+' else '/'

/-- The six-bit value of a symbol. -/
def value? (char : Char) : Option Nat :=
  let code := char.toNat
  if 65 ≤ code ∧ code ≤ 90 then some (code - 65)
  else if 97 ≤ code ∧ code ≤ 122 then some (code - 71)
  else if 48 ≤ code ∧ code ≤ 57 then some (code + 4)
  else if char = '+' then some 62
  else if char = '/' then some 63
  else none

/-- Symbols of the octets put after `written`, which is held last symbol first;
`fill` says whether a short last group is filled up. -/
def symbolsOnto (fill : Bool) (written : List Char) : Bytes → List Char
  | a :: b :: c :: rest =>
    let bits := (a.toNat * 256 + b.toNat) * 256 + c.toNat
    symbolsOnto fill
      (symbol (bits % 64) :: symbol (bits / 64 % 64) :: symbol (bits / 4096 % 64)
        :: symbol (bits / 262144) :: written) rest
  | [a, b] =>
    let bits := (a.toNat * 256 + b.toNat) * 4
    let group := symbol (bits % 64) :: symbol (bits / 64 % 64) :: symbol (bits / 4096) :: written
    if fill then '=' :: group else group
  | [a] =>
    let bits := a.toNat * 16
    let group := symbol (bits % 64) :: symbol (bits / 64) :: written
    if fill then '=' :: '=' :: group else group
  | [] => written

/-- The padded form of octets. -/
def encode (bytes : Bytes) : String := String.ofList (symbolsOnto true [] bytes).reverse

/-- The form without padding. -/
def encodeBare (bytes : Bytes) : String := String.ofList (symbolsOnto false [] bytes).reverse

/-- The octets of groups of four symbols; `seen` holds those already read, last first. A
padded group must be the last one, and its unused bits must be zero. -/
def decodeOnto (seen : Bytes) : List Char → Option Bytes
  | [] => some seen.reverse
  | a :: b :: c :: d :: rest =>
    match value? a, value? b with
    | some p, some q =>
      let first := UInt8.ofNat (p * 4 + q / 16)
      if c = '=' then
        if d = '=' ∧ rest = [] ∧ q % 16 = 0 then some (first :: seen).reverse else none
      else match value? c with
        | none => none
        | some r =>
          let second := UInt8.ofNat (q % 16 * 16 + r / 4)
          if d = '=' then
            if rest = [] ∧ r % 4 = 0 then some (second :: first :: seen).reverse else none
          else match value? d with
            | none => none
            | some s => decodeOnto (UInt8.ofNat (r % 4 * 64 + s) :: second :: first :: seen) rest
    | _, _ => none
  | _ => none

/-- The octets of a padded text; nothing for any other text. -/
def decode? (text : String) : Option Bytes := decodeOnto [] text.toList

end MediaGateway.Base64
