import MediaGateway.Json.Written

/-!
# Written values that are kept

What is asked for is read in full: the escapes of a string stand for characters,
the digits of a number for its value, and lists and records may be nested so deep
and no deeper. A record is asked for by the names of its fields; it may also be
written as the list of their values.
-/

namespace MediaGateway.Json

/-- The number that digits write. -/
def digitsValue (digits : List Nat) : Nat := digits.foldl (fun value digit => value * 10 + digit) 0

/-- Leading digits that a word of 64 bits still holds behind the digits already in it, and how
many of them there are. -/
def gather (value count : Nat) : List Nat → Nat × Nat
  | [] => (value, count)
  | digit :: rest =>
    let next := value * 10 + digit
    if next < Nat.pow 2 64 then gather next (count + 1) rest else (value, count)

/-- The largest power of ten that is scaled by in one step. -/
def largestPower : Nat := 308

/-- A power of ten in double precision. -/
def powerOfTen (exponent : Nat) : Binary64 := Binary64.ofNat (Nat.pow 10 exponent)

/-- A number divided by a power of ten, in steps of the largest one; `fuel` bounds the steps. -/
def scaleDown : (fuel : Nat) → (exponent : Nat) → Binary64 → Binary64
  | 0, _, value => value
  | fuel + 1, exponent, value =>
    if exponent ≤ largestPower then value.div (powerOfTen exponent)
    else if value = Binary64.zero then value
    else scaleDown fuel (exponent - largestPower) (value.div (powerOfTen largestPower))

/-- Digits times a power of ten in double precision; nothing when the size is beyond it. -/
def scaled? (digits : Nat) (exponent : Int) : Option Binary64 :=
  let value := Binary64.ofNat digits
  match exponent with
  | .ofNat power =>
    if value = Binary64.zero then some value
    else if largestPower < power then none
    else
      let product := value.mul (powerOfTen power)
      if product.isFinite then some product else none
  | .negSucc power => some (scaleDown 8 (power + 1) value)

/-- The exponent of a number: what is written, kept to 32 bits. -/
def Numeral.power (numeral : Numeral) (places : Int) : Int :=
  match numeral.exponent with
  | none => places
  | some (false, digits) => min (places + digitsValue digits) (Int.pow 2 31 - 1)
  | some (true, digits) => max (places - digitsValue digits) (-Int.pow 2 31)

/-- A number as one of double precision. Only as many digits count as a word of 64 bits holds;
nothing when the size is beyond double precision. -/
def Numeral.real? (numeral : Numeral) : Option Number :=
  let (front, taken) := gather 0 0 numeral.whole
  let (digits, behind) := gather front 0 numeral.fraction
  let places : Int := (numeral.whole.length - taken : Nat) - (behind : Int)
  (scaled? digits (numeral.power places)).map fun size => .real numeral.isNegative size

/-- Whether a number is written with digits alone. -/
def Numeral.isWhole (numeral : Numeral) : Bool :=
  numeral.fraction = [] && numeral.exponent.isNone

/-- The value of a number: a whole one where 64 bits hold it, except for zero with a sign. -/
def Numeral.number? (numeral : Numeral) : Option Number :=
  let value := digitsValue numeral.whole
  if !numeral.isWhole then numeral.real?
  else if numeral.isNegative then
    if value = 0 ∨ Nat.pow 2 63 < value then numeral.real? else some (.negative value)
  else if value < Nat.pow 2 64 then some (.natural value) else numeral.real?

/-- The whole number that a number is, if it is one. -/
def Numeral.integer? (numeral : Numeral) : Option Int :=
  match numeral.number? with
  | some (.natural value) => some value
  | some (.negative value) => some (-value)
  | _ => none

/-- The number that hexadecimal digits write. -/
def hexOctets (octets : Bytes) : Nat :=
  octets.foldl (fun value octet => value * 16 + (hexOctet? octet).getD 0) 0

/-- The octet that a short escape stands for. -/
def escapedOctet (mark : UInt8) : UInt8 :=
  if mark = 0x62 then 0x08 else if mark = 0x66 then 0x0C else if mark = 0x6E then 0x0A
  else if mark = 0x72 then 0x0D else if mark = 0x74 then 0x09 else mark

/-- The octets that stand for what is between quotes. Two escapes may write one character beyond
the first 65536; half of one alone is refused. `seen` holds what came before, last first. -/
def unescape (seen : Bytes) : Bytes → Option Bytes
  | [] => some seen.reverse
  | 0x5C :: 0x75 :: a :: b :: c :: d :: 0x5C :: 0x75 :: e :: f :: g :: h :: rest =>
    let first := hexOctets [a, b, c, d]
    let second := hexOctets [e, f, g, h]
    let put (code : Nat) : Bytes :=
      (String.utf8EncodeChar (Char.ofNat code)).reverse ++ seen
    if 0xD800 ≤ first ∧ first < 0xDC00 then
      if 0xDC00 ≤ second ∧ second < 0xE000 then
        unescape (put (0x10000 + (first - 0xD800) * 0x400 + (second - 0xDC00))) rest
      else none
    else if 0xDC00 ≤ first ∧ first < 0xE000 then none
    else unescape (put first) (0x5C :: 0x75 :: e :: f :: g :: h :: rest)
  | 0x5C :: 0x75 :: a :: b :: c :: d :: rest =>
    let code := hexOctets [a, b, c, d]
    if 0xD800 ≤ code ∧ code < 0xE000 then none
    else unescape ((String.utf8EncodeChar (Char.ofNat code)).reverse ++ seen) rest
  | 0x5C :: mark :: rest => unescape (escapedOctet mark :: seen) rest
  | octet :: rest => unescape (octet :: seen) rest

/-- The text between quotes. -/
def unquoted? (inside : Bytes) : Option String := (unescape [] inside).bind Bytes.toText?

/-- The value that is written, with at most `room` lists and records inside one another. -/
def Written.value? : (room : Nat) → Written → Option Value
  | _, .null => some .null
  | _, .flag content => some (.flag content)
  | _, .numeral content => content.number?.map .number
  | _, .quoted inside => (unquoted? inside).map .text
  | 0, .list _ => none
  | 0, .record _ => none
  | room + 1, .list items => (items.mapM (value? room)).map .list
  | room + 1, .record entries =>
    (entries.mapM fun (name, value) =>
      (unquoted? name).bind fun name => (value? room value).map fun value => (name, value)).map
        fun entries => .record (ordered entries)

/-- Most lists and records inside one another. -/
def deepest : Nat := 127

/-- The value that octets write. -/
def Value.read? (bytes : Bytes) : Option Value :=
  (Written.read? bytes).bind (Written.value? deepest)

/-- Entries with their names read. -/
def namedEntries? (entries : List (Bytes × Written)) : Option (List (String × Written)) :=
  entries.mapM fun entry => (unquoted? entry.1).map fun name => (name, entry.2)

/-- A written value, absent when it is null. -/
def present : Written → Option Written
  | .null => none
  | written => some written

/-- What is written for one field, given the names it may have: null is as good as nothing, and
twice is refused. -/
def fieldOf? (entries : List (String × Written)) (names : List String) : Option (Option Written) :=
  match entries.filter fun entry => names.contains entry.1 with
  | [] => some none
  | [entry] => some (present entry.2)
  | _ => none

/-- What is written for each field of a record, given the names it may have. A list gives the
fields in their order and may end early. -/
def Written.fields? (names : List (List String)) : Written → Option (List (Option Written))
  | .record entries =>
    (namedEntries? entries).bind fun entries => names.mapM (fieldOf? entries)
  | .list items =>
    if names.length < items.length then none
    else some (items.map present ++ List.replicate (names.length - items.length) none)
  | _ => none

/-- The text that is written. -/
def Written.text? : Written → Option String
  | .quoted inside => unquoted? inside
  | _ => none

/-- The list of texts that is written. -/
def Written.texts? : Written → Option (List String)
  | .list items => items.mapM text?
  | _ => none

/-- The whole number that is written, from a least one up to a bound. -/
def Written.integer? (least bound : Int) : Written → Option Int
  | .numeral content =>
    content.integer?.bind fun value => if least ≤ value ∧ value < bound then some value else none
  | _ => none

/-- The record that is written, with at most `room` lists and records inside one another. -/
def Written.record? (room : Nat) (written : Written) : Option (List (String × Value)) :=
  match written, value? room written with
  | .record _, some (.record entries) => some entries
  | _, _ => none

/-- A field that may be missing. -/
def optional? {α : Type} (read : Written → Option α) : Option Written → Option (Option α)
  | none => some none
  | some written => (read written).map some

end MediaGateway.Json
