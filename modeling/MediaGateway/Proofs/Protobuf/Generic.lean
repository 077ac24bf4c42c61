import MediaGateway.Proofs.Protobuf.Grammar
import MediaGateway.Protobuf.Descriptor
import MediaGateway.Protobuf.Shape

/-!
# Messages known by their description only

A client that has no message types of its own can still write and read messages from what
the files say of them: the names, numbers, labels and types of fields, and which of the
declared types stand for the entries of a map. This codec knows nothing else. It is strict,
so a field that the description does not list and a wire type that is not the field's own
are mistakes, and it writes no record that is not of the described type.
-/

namespace MediaGateway.Protobuf.Descriptor

/-- What a full type name refers to. -/
inductive Declared where
  /-- A message with its fields. -/
  | message (fields : List FieldInfo)
  /-- The entry of a map with its fields. -/
  | entry (fields : List FieldInfo)
  deriving DecidableEq, Repr

/-- The types that files declare, by their full names. -/
def declarations (files : List FileInfo) : List (String × Declared) :=
  files.flatMap fun file => file.messages.flatMap fun message =>
    (fullName file.package message.name, .message message.fields) ::
      message.entries.map fun entry =>
        (fullName file.package (message.name ++ "." ++ entry.name), .entry entry.fields)

/-- The type with a full name. -/
def declared? (files : List FileInfo) (typeName : String) : Option Declared :=
  (declarations files).lookup typeName

/-- What the values of a field are. -/
inductive Kind where
  /-- A text. -/
  | text
  /-- Octets. -/
  | octets
  /-- A signed integer of 64 bits. -/
  | int64
  /-- A signed integer of 32 bits. -/
  | int32
  /-- A truth value. -/
  | flag
  /-- A list of texts. -/
  | texts
  /-- A nested message with these fields, or none. -/
  | message (fields : List FieldInfo)
  /-- A list of nested messages with these fields. -/
  | messages (fields : List FieldInfo)
  /-- A map, whose entries have these fields. -/
  | table (fields : List FieldInfo)
  deriving DecidableEq, Repr

/-- What the values of a field are, as far as its description tells. A field among alternatives
is none of these, nor is a list of numbers. -/
def FieldInfo.kind? (files : List FileInfo) (info : FieldInfo) : Option Kind :=
  if info.choice ≠ none then none
  else match info.type, info.label with
    | .string, .optional => some .text
    | .string, .repeated => some .texts
    | .bytes, .optional => some .octets
    | .int64, .optional => some .int64
    | .int32, .optional => some .int32
    | .bool, .optional => some .flag
    | .message, label =>
      match label, info.typeName.bind (declared? files) with
      | .optional, some (.message fields) => some (.message fields)
      | .repeated, some (.message fields) => some (.messages fields)
      | .repeated, some (.entry fields) => some (.table fields)
      | _, _ => none
    | _, _ => none

/-- A field whose description is understood. -/
structure Part where
  /-- Its name. -/
  name : String
  /-- Its number. -/
  number : Nat
  /-- What its values are. -/
  kind : Kind
  deriving DecidableEq, Repr

/-- Fields with numbers of their own, each of which the wire has. -/
def WellNumbered (fields : List FieldInfo) : Prop :=
  (fields.map FieldInfo.number).Nodup ∧ ∀ info ∈ fields, 0 < info.number ∧ info.number < numberBound

instance (fields : List FieldInfo) : Decidable (WellNumbered fields) :=
  inferInstanceAs (Decidable (_ ∧ _))

/-- The fields of a message, provided that each description is understood. -/
def parts? (files : List FileInfo) (fields : List FieldInfo) : Option (List Part) :=
  if WellNumbered fields then
    fields.mapM fun info => (info.kind? files).map fun kind => ⟨info.name, info.number, kind⟩
  else none

/-- The value of a field that never occurs. -/
def Kind.blank : Kind → Value
  | text => .text ""
  | octets => .octets []
  | int64 | int32 => .integer 0
  | flag => .flag false
  | texts => .texts []
  | message _ => .absent
  | messages _ => .records []
  | table _ => .table []

/-- Values by the names of their fields. -/
abbrev Record : Type := List (String × Value)

/-- The record in which no field occurs. -/
def blankOf (parts : List Part) : Record := parts.map fun part => (part.name, part.kind.blank)

/-- What stands behind a key, as far as the wire type tells. -/
inductive Payload where
  /-- A number. -/
  | number (value : Nat)
  /-- A stretch of octets. -/
  | stretch (content : Bytes)
  deriving DecidableEq, Repr

/-- A payload under the number of a field. -/
abbrev Occurrence : Type := Nat × Payload

namespace Payload

/-- The wire type of a payload. -/
def wire : Payload → WireType
  | number _ => .varint
  | stretch _ => .lengthDelimited

/-- The octets of a payload. -/
def write : Payload → Bytes
  | number value => writeVarint value
  | stretch content => writeDelimited content

/-- Octets that are a payload. -/
def IsWritten (content : Bytes) : Payload → Prop
  | number value => IsNumber content value
  | stretch inner => IsStretch content inner

/-- A payload that fits in the addresses there are. -/
def Fits : Payload → Prop
  | number value => value < octetBound
  | stretch content => content.length < octetBound

end Payload

/-- The octets of an occurrence. -/
def writeOccurrence (occurrence : Occurrence) : Bytes :=
  writeKey occurrence.1 occurrence.2.wire ++ occurrence.2.write

/-- What is wrong with octets that are no message of a description. -/
inductive Misread where
  /-- The octets are malformed. -/
  | malformed (error : DecodeError)
  /-- A field is not described. -/
  | unknownField (number : Nat)
  /-- A field comes with another wire type than its own. -/
  | otherWireType (number : Nat)
  /-- The octets of a text are not UTF-8. -/
  | notText (number : Nat)
  /-- The entry of a map is not a key and a value. -/
  | notEntry (number : Nat)
  /-- The description is not understood. -/
  | undescribed
  /-- Messages are nested too deeply. -/
  | tooDeep
  deriving DecidableEq, Repr

/-- The payload behind a key, and the octets after it. No field of a known kind has any of the
other wire types. -/
def readPayload (number : Nat) (wire : WireType) (bytes : Bytes) :
    Except Misread (Payload × Bytes) :=
  match wire with
  | .varint =>
    match readVarint bytes with
    | .ok (value, rest) => .ok (.number value, rest)
    | .error error => .error (.malformed error)
  | .lengthDelimited =>
    match readDelimited bytes with
    | .ok (content, rest) => .ok (.stretch content, rest)
    | .error error => .error (.malformed error)
  | _ => .error (.otherWireType number)

/-- The occurrences that octets are made of. The fuel is more than the octets there are, and each
occurrence takes at least one. -/
def occurrences : (fuel : Nat) → Bytes → Except Misread (List Occurrence)
  | 0, _ => .ok []
  | fuel + 1, bytes =>
    if bytes = [] then .ok []
    else match readKey bytes with
      | .error error => .error (.malformed error)
      | .ok (number, wire, rest) =>
        match readPayload number wire rest with
        | .error error => .error error
        | .ok (payload, after) =>
          (occurrences fuel after).map fun later => (number, payload) :: later

/-- The text that octets are. -/
def textOf (number : Nat) (content : Bytes) : Except Misread String :=
  match content.toText? with
  | some text => .ok text
  | none => .error (.notText number)

/-- The record of a map entry. -/
def entryRecord (entry : String × String) : Record :=
  [("key", .text entry.1), ("value", .text entry.2)]

/-- The map entry that a record is. -/
def entryOf (number : Nat) (record : Record) : Except Misread (String × String) :=
  match record with
  | [(first, .text key), (second, .text value)] =>
    if first = "key" ∧ second = "value" then .ok (key, value) else .error (.notEntry number)
  | _ => .error (.notEntry number)

mutual

/-- The values of a kind, at any level of nesting. -/
inductive Typed (files : List FileInfo) : Kind → Value → Prop where
  /-- Any text. -/
  | text (content : String) : Typed files .text (.text content)
  /-- Any octets. -/
  | octets (content : Bytes) : Typed files .octets (.octets content)
  /-- An integer of 64 bits. -/
  | int64 {value : Int} (least : -(Nat.pow 2 63 : Nat) ≤ value)
    (most : value < (Nat.pow 2 63 : Nat)) : Typed files .int64 (.integer value)
  /-- An integer of 32 bits. -/
  | int32 {value : Int} (least : -(Nat.pow 2 31 : Nat) ≤ value)
    (most : value < (Nat.pow 2 31 : Nat)) : Typed files .int32 (.integer value)
  /-- Either truth value. -/
  | flag (mark : Bool) : Typed files .flag (.flag mark)
  /-- Any texts. -/
  | texts (contents : List String) : Typed files .texts (.texts contents)
  /-- No message. -/
  | absent (fields : List FieldInfo) : Typed files (.message fields) .absent
  /-- A message. -/
  | record {fields : List FieldInfo} {parts : List Part} {record : Record}
    (understood : parts? files fields = some parts) (each : TypedRecord files parts record) :
    Typed files (.message fields) (.record record)
  /-- Any number of messages. -/
  | records {fields : List FieldInfo} {parts : List Part} {records : List Record}
    (understood : parts? files fields = some parts)
    (each : ∀ record ∈ records, TypedRecord files parts record) :
    Typed files (.messages fields) (.records records)
  /-- Any map, where an entry is a key and a value. -/
  | table {fields : List FieldInfo}
    (understood : parts? files fields = some [⟨"key", 1, .text⟩, ⟨"value", 2, .text⟩])
    (map : TextMap) : Typed files (.table fields) (.table map.entries)

/-- Records with a value of its kind for each field, in the order of the fields. -/
inductive TypedRecord (files : List FileInfo) : List Part → Record → Prop where
  /-- No field. -/
  | done : TypedRecord files [] []
  /-- A field, and then those behind it. -/
  | field {part : Part} {parts : List Part} {value : Value} {record : Record}
    (typed : Typed files part.kind value) (later : TypedRecord files parts record) :
    TypedRecord files (part :: parts) ((part.name, value) :: record)

end

/-- Records that are messages of the type with a full name. -/
def TypedAs (files : List FileInfo) (typeName : String) (record : Record) : Prop :=
  ∃ fields parts, declared? files typeName = some (.message fields) ∧
    parts? files fields = some parts ∧ TypedRecord files parts record

section Reading

variable (inner : List FieldInfo → Option Record → Bytes → Except Misread Record)

/-- The value of a field after one more occurrence, where the fields of nested messages are read
from the octets of each, on top of what is there. -/
def Kind.merge (number : Nat) : Kind → Value → Payload → Except Misread Value
  | text, _, .stretch content => (textOf number content).map .text
  | octets, _, .stretch content => .ok (.octets content)
  | int64, _, .number value => .ok (.integer (Int.bmod value (Nat.pow 2 64)))
  | int32, _, .number value => .ok (.integer (Int.bmod value (Nat.pow 2 32)))
  | flag, _, .number value => .ok (.flag (value != 0))
  | texts, .texts before, .stretch content =>
    (textOf number content).map fun text => .texts (before ++ [text])
  | message fields, .absent, .stretch content => (inner fields none content).map .record
  | message fields, .record before, .stretch content =>
    (inner fields (some before) content).map .record
  | messages fields, .records before, .stretch content =>
    (inner fields none content).map fun record => .records (before ++ [record])
  | table fields, .table before, .stretch content =>
    match inner fields none content with
    | .error error => .error error
    | .ok record =>
      (entryOf number record).map fun entry => .table (TextMap.put entry.1 entry.2 before)
  | _, _, _ => .error (.otherWireType number)

/-- The record after one more occurrence of one of the fields. -/
def mergeAt : List Part → Record → Occurrence → Except Misread Record
  | part :: parts, (name, before) :: record, occurrence =>
    if part.number = occurrence.1 then
      (part.kind.merge inner part.number before occurrence.2).map fun after =>
        (name, after) :: record
    else (mergeAt parts record occurrence).map fun later => (name, before) :: later
  | _, _, occurrence => .error (.unknownField occurrence.1)

end Reading

/-- The record after the fields in octets, on top of one that is there or of the blank one. -/
def readRecord (files : List FileInfo) : (depth : Nat) → List FieldInfo → Option Record → Bytes →
    Except Misread Record
  | 0, _, _, _ => .error .tooDeep
  | depth + 1, fields, before, bytes =>
    match parts? files fields with
    | none => .error .undescribed
    | some parts =>
      match occurrences (bytes.length + 1) bytes with
      | .error error => .error error
      | .ok found =>
        found.foldlM (mergeAt (readRecord files depth) parts) (before.getD (blankOf parts))

/-- The record that octets hold as a message of the type with a full name. -/
def decodeAs (files : List FileInfo) (typeName : String) (bytes : Bytes) :
    Except Misread Record :=
  match declared? files typeName with
  | some (.message fields) => readRecord files (depthLimit + 1) fields none bytes
  | _ => .error .undescribed

/-- The payloads of a signed integer below a bound: its two's complement of 64 bits. -/
def writeInteger (bound : Nat) (value : Int) : Option (List Payload) :=
  if -bound ≤ value ∧ value < bound then
    some (if value = 0 then [] else [.number (value % octetBound).toNat])
  else none

instance (entries : List (String × String)) : Decidable (Ascending entries) :=
  inferInstanceAs (Decidable (entries.Pairwise fun former latter => former.1 < latter.1))

section Writing

variable (inner : EntryOrder → List FieldInfo → Record → Option Bytes)

/-- The payloads of a value of a field, where the octets of nested messages are written from the
record of each. The blank value has none. -/
def Kind.write (order : EntryOrder) : Kind → Value → Option (List Payload)
  | text, .text content => some (if content = "" then [] else [.stretch (Bytes.ofText content)])
  | octets, .octets content => some (if content = [] then [] else [.stretch content])
  | int64, .integer value => writeInteger (Nat.pow 2 63) value
  | int32, .integer value => writeInteger (Nat.pow 2 31) value
  | flag, .flag mark => some (if mark then [.number 1] else [])
  | texts, .texts contents => some (contents.map fun content => .stretch (Bytes.ofText content))
  | message _, .absent => some []
  | message fields, .record record =>
    (inner order fields record).map fun content => [.stretch content]
  | messages fields, .records records =>
    (records.zipIdx.mapM fun numbered =>
      inner (order.inside numbered.2) fields numbered.1).map fun contents => contents.map .stretch
  | table fields, .table entries =>
    if ascending : Ascending entries then
      ((order [] ⟨entries, ascending⟩).mapM fun entry =>
        inner order fields (entryRecord entry)).map fun contents => contents.map .stretch
    else none
  | _, _ => none

/-- The occurrences of the fields of a record. -/
def occurrencesOf (order : EntryOrder) : List Part → Record → Option (List Occurrence)
  | [], [] => some []
  | part :: parts, (name, value) :: record =>
    if name = part.name then
      match part.kind.write inner (order.inside part.number) value,
        occurrencesOf order parts record with
      | some payloads, some later =>
        some (payloads.map (fun payload => (part.number, payload)) ++ later)
      | _, _ => none
    else none
  | _, _ => none

end Writing

/-- The octets of a record, if its values are of the described kinds. -/
def writeRecord (files : List FileInfo) : (depth : Nat) → EntryOrder → List FieldInfo → Record →
    Option Bytes
  | 0, _, _, _ => none
  | depth + 1, order, fields, record =>
    match parts? files fields with
    | none => none
    | some parts =>
      (occurrencesOf (writeRecord files depth) order parts record).map fun found =>
        found.flatMap writeOccurrence

/-- The octets of a record as a message of the type with a full name, if it is one. -/
def encodeAs (files : List FileInfo) (order : EntryOrder) (typeName : String) (record : Record) :
    Option Bytes :=
  match declared? files typeName with
  | some (.message fields) => writeRecord files (depthLimit + 1) order fields record
  | _ => none

end MediaGateway.Protobuf.Descriptor
