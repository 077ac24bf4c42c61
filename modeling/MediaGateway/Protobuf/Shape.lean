import MediaGateway.Protobuf.Value
import MediaGateway.Protobuf.Wire
import MediaGateway.TextMap

/-!
# Shapes of fields

A shape says how the values of a field are written under a number, how many
octets that takes, how one occurrence on the wire changes the value read so far,
and how a value looks without its type. A value equal to the blank one is not
written at all. A single value is replaced by a later occurrence, a list grows
at its end, a map takes the entry in, and a nested message is merged.
-/

namespace MediaGateway.Protobuf

/-- The order in which the entries of maps are written. It may differ from map to map: the numbers
lead to the map from the outside in, by the field of a message and the place in a list. -/
abbrev EntryOrder : Type := List Nat → TextMap → List (String × String)

namespace EntryOrder

/-- The order of the keys, in every map. -/
def byKey : EntryOrder := fun _ => TextMap.entries

/-- The order in the part that a number leads to. -/
def inside (order : EntryOrder) (place : Nat) : EntryOrder := fun places => order (place :: places)

/-- The order of the keys is the same in every part. -/
@[simp] theorem inside_byKey (place : Nat) : byKey.inside place = byKey := rfl

end EntryOrder

/-- How the values of one field are written and read. -/
structure Shape (α : Type) where
  /-- The value of a field that never occurs. -/
  blank : α
  /-- The octets of a value under a field number. -/
  write : EntryOrder → Nat → α → Bytes
  /-- How many octets those are. -/
  size : Nat → α → Nat
  /-- The value after one more occurrence, given the levels of nesting that are left. -/
  read : (depth : Nat) → WireType → α → Bytes → Reading α
  /-- The value without its type. -/
  view : α → Value
  /-- The value that such a form stands for. -/
  ofView? : Value → Option α

namespace Shape

/-- Octets of a delimited field. -/
def delimitedSize (number length : Nat) : Nat :=
  varintSize (number * 8 + 2) + varintSize length + length

/-- Octets of a field that holds one number. -/
def varintFieldSize (number value : Nat) : Nat := varintSize (number * 8) + varintSize value

/-- A delimited field. -/
def writeContent (number : Nat) (content : Bytes) : Bytes :=
  writeKey number .lengthDelimited ++ writeDelimited content

/-- A field that holds one number. -/
def writeNumber (number value : Nat) : Bytes := writeKey number .varint ++ writeVarint value

/-- The text behind the length in front. -/
def readText (bytes : Bytes) : Reading String :=
  match readDelimited bytes with
  | .error error => .error error
  | .ok (content, rest) =>
    match content.toText? with
    | some text => .ok (text, rest)
    | none => fail .notText

/-- A reader that first insists on a wire type. -/
def expecting {α : Type} (expected found : WireType) (reader : Reading α) : Reading α :=
  match expectWire found expected with
  | .ok () => reader
  | .error error => .error error

/-- A text. -/
def text : Shape String where
  blank := ""
  write _ number value := if value = "" then [] else writeContent number (Bytes.ofText value)
  size number value := if value = "" then 0 else delimitedSize number value.utf8ByteSize
  read _ wire _ bytes := expecting .lengthDelimited wire (readText bytes)
  view := .text
  ofView?
    | .text value => some value
    | _ => none

/-- Octets. -/
def octets : Shape Bytes where
  blank := []
  write _ number value := if value = [] then [] else writeContent number value
  size number value := if value = [] then 0 else delimitedSize number value.length
  read _ wire _ bytes := expecting .lengthDelimited wire (readDelimited bytes)
  view := .octets
  ofView?
    | .octets value => some value
    | _ => none

/-- A signed integer of 64 bits; a negative one is written as its two's complement. -/
def int64 : Shape Int64 where
  blank := 0
  write _ number value := if value = 0 then [] else writeNumber number value.toUInt64.toNat
  size number value := if value = 0 then 0 else varintFieldSize number value.toUInt64.toNat
  read _ wire _ bytes := expecting .varint wire <|
    (readVarint bytes).map fun (value, rest) => ((UInt64.ofNat value).toInt64, rest)
  view value := .integer value.toInt
  ofView?
    | .integer value => some (Int64.ofInt value)
    | _ => none

/-- A signed integer of 32 bits. It is widened to 64 bits for writing; reading keeps the low
32 bits of whatever number is there. -/
def int32 : Shape Int32 where
  blank := 0
  write _ number value :=
    if value = 0 then [] else writeNumber number value.toInt64.toUInt64.toNat
  size number value :=
    if value = 0 then 0 else varintFieldSize number value.toInt64.toUInt64.toNat
  read _ wire _ bytes := expecting .varint wire <|
    (readVarint bytes).map fun (value, rest) => ((UInt32.ofNat value).toInt32, rest)
  view value := .integer value.toInt
  ofView?
    | .integer value => some (Int32.ofInt value)
    | _ => none

/-- A truth value; every number but zero reads as true. -/
def flag : Shape Bool where
  blank := false
  write _ number value := if value then writeNumber number 1 else []
  size number value := if value then varintFieldSize number 1 else 0
  read _ wire _ bytes := expecting .varint wire <|
    (readVarint bytes).map fun (value, rest) => (value != 0, rest)
  view := .flag
  ofView?
    | .flag value => some value
    | _ => none

/-- The sum of sizes. -/
def total (sizes : List Nat) : Nat := sizes.foldr (· + ·) 0

/-- A list of texts; an empty text in it is written too. -/
def texts : Shape (List String) where
  blank := []
  write _ number values := values.flatMap fun value => writeContent number (Bytes.ofText value)
  size number values := total (values.map fun value => delimitedSize number value.utf8ByteSize)
  read _ wire values bytes := expecting .lengthDelimited wire <|
    (readText bytes).map fun (value, rest) => (values ++ [value], rest)
  view := .texts
  ofView?
    | .texts values => some values
    | _ => none

/-- The fields of a map entry: its key under 1 and its value under 2. -/
def writeEntry (entry : String × String) : Bytes :=
  text.write .byKey 1 entry.1 ++ text.write .byKey 2 entry.2

/-- Octets that the fields of a map entry take. -/
def entrySize (entry : String × String) : Nat := text.size 1 entry.1 + text.size 2 entry.2

/-- Merges one field into a map entry. -/
def mergeEntry (depth : Nat) : Merge (String × String) := fun entry number wire bytes =>
  if number = 1 then
    (text.read depth wire entry.1 bytes).map fun (key, rest) => ((key, entry.2), rest)
  else if number = 2 then
    (text.read depth wire entry.2 bytes).map fun (value, rest) => ((entry.1, value), rest)
  else (skipField depth number wire bytes).map fun rest => (entry, rest)

/-- A map from text to text. Each entry is a nested message whose wire type is not looked at. -/
def table : Shape TextMap where
  blank := TextMap.empty
  write order number map :=
    (order [] map).flatMap fun entry => writeContent number (writeEntry entry)
  size number map := total (map.entries.map fun entry => delimitedSize number (entrySize entry))
  read depth _ map bytes :=
    match depth with
    | 0 => fail .tooDeep
    | depth + 1 =>
      (mergeDelimited (mergeEntry depth) ("", "") bytes).map fun (entry, rest) =>
        (map.insert entry.1 entry.2, rest)
  view map := .table map.entries
  ofView?
    | .table entries => some (TextMap.ofList entries)
    | _ => none

end Shape

end MediaGateway.Protobuf
