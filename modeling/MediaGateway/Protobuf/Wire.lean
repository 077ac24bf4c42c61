import MediaGateway.Bytes

/-!
# The wire format

A message is a run of fields. A field starts with a key, a number in base 128
that holds the field's number and its wire type; the wire type says how far the
field reaches. Readers take octets off the front and hand back the rest; a
reader that fails names the cause and, from the inside out, the fields it was in.
-/

namespace MediaGateway.Protobuf

/-- How the octets of a field are delimited. -/
inductive WireType where
  /-- One number in base 128. -/
  | varint
  /-- Eight octets. -/
  | sixtyFourBit
  /-- A length and as many octets. -/
  | lengthDelimited
  /-- The beginning of a group. -/
  | startGroup
  /-- The end of a group. -/
  | endGroup
  /-- Four octets. -/
  | thirtyTwoBit
  deriving DecidableEq, Repr

namespace WireType

/-- The number of a wire type in a key. -/
def number : WireType → Nat
  | varint => 0
  | sixtyFourBit => 1
  | lengthDelimited => 2
  | startGroup => 3
  | endGroup => 4
  | thirtyTwoBit => 5

/-- The wire type with a number. -/
def ofNumber? : Nat → Option WireType
  | 0 => some varint
  | 1 => some sixtyFourBit
  | 2 => some lengthDelimited
  | 3 => some startGroup
  | 4 => some endGroup
  | 5 => some thirtyTwoBit
  | _ => none

/-- The name of a wire type in messages. -/
def name : WireType → String
  | varint => "Varint"
  | sixtyFourBit => "SixtyFourBit"
  | lengthDelimited => "LengthDelimited"
  | startGroup => "StartGroup"
  | endGroup => "EndGroup"
  | thirtyTwoBit => "ThirtyTwoBit"

end WireType

/-- What can be wrong with the octets of a message. -/
inductive Malformed where
  /-- A number in base 128 has no end, or is beyond 64 bits. -/
  | badVarint
  /-- A field reaches beyond the octets. -/
  | tooShort
  /-- A key names the field number zero. -/
  | zeroNumber
  /-- A key holds no wire type. -/
  | badWireType (value : Nat)
  /-- A key is beyond 32 bits. -/
  | badKey (value : Nat)
  /-- A known field comes with another wire type than its own. -/
  | otherWireType (found expected : WireType)
  /-- Octets of a text are not UTF-8. -/
  | notText
  /-- A group ends that was not begun. -/
  | strayGroupEnd
  /-- The fields of a nested message reach beyond its length. -/
  | overrun
  /-- Messages or groups are nested too deeply. -/
  | tooDeep
  deriving DecidableEq, Repr

/-- The words for a cause. -/
def Malformed.text : Malformed → String
  | badVarint => "invalid varint"
  | tooShort => "buffer underflow"
  | zeroNumber => "invalid tag value: 0"
  | badWireType value => "invalid wire type value: " ++ toString value
  | badKey value => "invalid key value: " ++ toString value
  | otherWireType found expected =>
    "invalid wire type: " ++ found.name ++ " (expected " ++ expected.name ++ ")"
  | notText => "invalid string value: data is not UTF-8 encoded"
  | strayGroupEnd => "unexpected end group tag"
  | overrun => "delimited length exceeded"
  | tooDeep => "recursion limit reached"

/-- Why octets are no message. -/
structure DecodeError where
  /-- The message and field names that the cause lies in, innermost first. -/
  trail : List (String × String)
  /-- The cause. -/
  cause : Malformed
  deriving DecidableEq, Repr

namespace DecodeError

/-- The error seen from the field of a message that contains it. -/
def within (error : DecodeError) (message field : String) : DecodeError :=
  ⟨error.trail ++ [(message, field)], error.cause⟩

/-- The full text: an opening, the trail from the inside out, and the cause. -/
def text (error : DecodeError) : String :=
  "failed to decode Protobuf message: "
    ++ String.join (error.trail.map fun step => step.1 ++ "." ++ step.2 ++ ": ")
    ++ error.cause.text

end DecodeError

/-- What a reader hands back: a value and the octets after it, or an error. -/
abbrev Reading (α : Type) : Type := Except DecodeError (α × Bytes)

/-- The failure of a reader outside every field. -/
def fail {α : Type} (cause : Malformed) : Except DecodeError α := .error ⟨[], cause⟩

/-- Levels of nesting that a reader accepts. -/
def depthLimit : Nat := 100

/-- A number in base 128, seven bits an octet, the low ones first; every octet but the last
has its high bit set. -/
def writeVarint (value : Nat) : Bytes :=
  if value < 128 then [UInt8.ofNat value]
  else UInt8.ofNat (value % 128 + 128) :: writeVarint (value / 128)
termination_by value
decreasing_by omega

/-- The number in base 128 in front of octets, when at most `room` octets may still belong
to it. The tenth octet holds one bit, so a larger value there is refused. -/
def varintWithin : (room : Nat) → Bytes → Reading Nat
  | room + 1, octet :: rest =>
    if octet.toNat < 128 then
      if room = 0 ∧ 2 ≤ octet.toNat then fail .badVarint else .ok (octet.toNat, rest)
    else
      match varintWithin room rest with
      | .ok (high, after) => .ok (octet.toNat - 128 + 128 * high, after)
      | .error error => .error error
  | _, _ => fail .badVarint

/-- The number in base 128 in front of octets; it has at most ten of them. -/
def readVarint (bytes : Bytes) : Reading Nat := varintWithin 10 bytes

/-- Octets that a number of 64 bits takes in base 128, found from the place of its highest bit:
up to there nine sixty-fourths round like one seventh. -/
def varintSize (value : Nat) : Nat := (value.log2 * 9 + 73) / 64

/-- The key of a field. -/
def writeKey (number : Nat) (wire : WireType) : Bytes := writeVarint (number * 8 + wire.number)

/-- The key in front of octets: the field's number and its wire type. -/
def readKey (bytes : Bytes) : Except DecodeError (Nat × WireType × Bytes) :=
  match readVarint bytes with
  | .error error => .error error
  | .ok (key, rest) =>
    if Nat.pow 2 32 ≤ key then fail (.badKey key)
    else match WireType.ofNumber? (key % 8) with
      | none => fail (.badWireType (key % 8))
      | some wire => if key / 8 = 0 then fail .zeroNumber else .ok (key / 8, wire, rest)

/-- A length and as many octets. -/
def writeDelimited (content : Bytes) : Bytes := writeVarint content.length ++ content

/-- The octets behind the length in front. -/
def readDelimited (bytes : Bytes) : Reading Bytes :=
  match readVarint bytes with
  | .error error => .error error
  | .ok (length, rest) =>
    match rest.splitExact? length with
    | some split => .ok split
    | none => fail .tooShort

/-- Octets after the given number of them; too few are an error. -/
def dropExact (count : Nat) (bytes : Bytes) : Except DecodeError Bytes :=
  match bytes.splitExact? count with
  | some (_, rest) => .ok rest
  | none => fail .tooShort

/-- The octets after the end of a group whose fields are passed over one by one. The fuel is
more than the octets there are, and each field takes at least one. -/
def skipGroup (pass : Nat → WireType → Bytes → Except DecodeError Bytes) (number : Nat) :
    (fuel : Nat) → Bytes → Except DecodeError Bytes
  | 0, _ => fail .badVarint
  | fuel + 1, bytes =>
    match readKey bytes with
    | .error error => .error error
    | .ok (inner, wire, rest) =>
      if wire = .endGroup then
        if inner = number then .ok rest else fail .strayGroupEnd
      else match pass inner wire rest with
        | .error error => .error error
        | .ok after => skipGroup pass number fuel after

/-- The octets after a field that nobody asked for, given the key in front of it. -/
def skipField : (depth : Nat) → Nat → WireType → Bytes → Except DecodeError Bytes
  | 0, _, _, _ => fail .tooDeep
  | depth + 1, number, wire, bytes =>
    match wire with
    | .varint => (readVarint bytes).map (·.2)
    | .thirtyTwoBit => dropExact 4 bytes
    | .sixtyFourBit => dropExact 8 bytes
    | .lengthDelimited => (readDelimited bytes).map (·.2)
    | .startGroup => skipGroup (skipField depth) number (bytes.length + 1) bytes
    | .endGroup => fail .strayGroupEnd

/-- How one field is merged into what was read before: by its number and wire type. -/
abbrev Merge (σ : Type) : Type := σ → Nat → WireType → Bytes → Reading σ

/-- Merges fields until at most `limit` octets are left. The fuel is more than the octets
there are, and each field takes at least one. -/
def mergeUntil {σ : Type} (merge : Merge σ) (limit : Nat) : (fuel : Nat) → σ → Bytes → Reading σ
  | 0, state, bytes => .ok (state, bytes)
  | fuel + 1, state, bytes =>
    if bytes.length ≤ limit then .ok (state, bytes)
    else match readKey bytes with
      | .error error => .error error
      | .ok (number, wire, rest) =>
        match merge state number wire rest with
        | .error error => .error error
        | .ok (next, after) => mergeUntil merge limit fuel next after

/-- Merges every field of the octets. -/
def mergeAll {σ : Type} (merge : Merge σ) (state : σ) (bytes : Bytes) : Except DecodeError σ :=
  (mergeUntil merge 0 (bytes.length + 1) state bytes).map (·.1)

/-- Merges the fields within the length in front. Their octets are not cut off at that
length: a field that reaches beyond it is found out when it has been read. -/
def mergeDelimited {σ : Type} (merge : Merge σ) (state : σ) (bytes : Bytes) : Reading σ :=
  match readVarint bytes with
  | .error error => .error error
  | .ok (length, rest) =>
    if rest.length < length then fail .tooShort
    else
      let limit := rest.length - length
      match mergeUntil merge limit (rest.length + 1) state rest with
      | .error error => .error error
      | .ok (merged, after) => if after.length = limit then .ok (merged, after) else fail .overrun

/-- Nothing when the wire type is the field's own, else an error. -/
def expectWire (found expected : WireType) : Except DecodeError Unit :=
  if found = expected then .ok () else fail (.otherWireType found expected)

end MediaGateway.Protobuf
