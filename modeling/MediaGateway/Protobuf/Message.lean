import MediaGateway.Protobuf.Shape

/-!
# Messages

A message type lists its fields in the order of their numbers. From that list
follow its octets, their count, how an occurrence of a field is merged, and the
form of its values without a type. A field whose number is not listed is passed
over.
-/

namespace MediaGateway.Protobuf

/-- One field of a message type. -/
structure Field (M : Type) where
  /-- The field's name. -/
  name : String
  /-- The field's number. -/
  number : Nat
  /-- The type of its values. -/
  Carrier : Type
  /-- How its values are written and read. -/
  shape : Shape Carrier
  /-- The field's value in a message. -/
  get : M → Carrier
  /-- The message with the field set. -/
  set : M → Carrier → M

/-- A message type. -/
class Message (M : Type) where
  /-- The name of the type. -/
  name : String
  /-- The message in which no field occurs. -/
  blank : M
  /-- The fields in the order of their numbers. -/
  fields : List (Field M)

namespace Message

variable {M : Type} [Message M]

/-- The octets of a message whose maps are written in a given order of entries. -/
def encodeOrdered (order : EntryOrder) (message : M) : Bytes :=
  (fields (M := M)).flatMap fun field =>
    field.shape.write (order.inside field.number) field.number (field.get message)

/-- The octets of a message; the entries of a map come in the order of their keys. -/
def encode (message : M) : Bytes := encodeOrdered .byKey message

/-- How many octets a message takes, found without writing them. -/
def encodedLength (message : M) : Nat :=
  Shape.total <|
    (fields (M := M)).map fun field => field.shape.size field.number (field.get message)

/-- The field with a number, if the type has one. -/
def fieldNumbered? (M : Type) [Message M] (number : Nat) : Option (Field M) :=
  (fields (M := M)).find? fun field => field.number = number

/-- Merges one occurrence of a field. An error inside a known field says so. -/
def mergeField (depth : Nat) : Merge M := fun message number wire bytes =>
  match fieldNumbered? M number with
  | none => (skipField depth number wire bytes).map fun rest => (message, rest)
  | some field =>
    match field.shape.read depth wire (field.get message) bytes with
    | .ok (value, rest) => .ok (field.set message value, rest)
    | .error error => .error (error.within (Message.name M) field.name)

/-- The octets merged on top of a message. -/
def decodeOnto (message : M) (bytes : Bytes) : Except DecodeError M :=
  mergeAll (mergeField depthLimit) message bytes

/-- The message that octets hold. -/
def decode (bytes : Bytes) : Except DecodeError M := decodeOnto blank bytes

/-- The field names with their values. -/
def view (message : M) : List (String × Value) :=
  (fields (M := M)).map fun field => (field.name, field.shape.view (field.get message))

/-- A message with the named values set; names that are no fields are passed over, and a
value of the wrong kind is refused. -/
def setView? (message : M) (values : List (String × Value)) : Option M :=
  values.foldlM (fun built (entry : String × Value) =>
    match (fields (M := M)).find? fun field => field.name = entry.1 with
    | none => some built
    | some field => (field.shape.ofView? entry.2).map fun value => field.set built value) message

/-- The message with the named values and every other field blank. -/
def ofView? (values : List (String × Value)) : Option M := setView? blank values

end Message

namespace Shape

variable {N : Type} [Message N]

/-- A nested message that may be absent; a further occurrence is merged into the one before. -/
def nested : Shape (Option N) where
  blank := none
  write order number
    | none => []
    | some message => writeContent number (Message.encodeOrdered order message)
  size number
    | none => 0
    | some message => delimitedSize number (Message.encodedLength message)
  read depth wire message bytes := expecting .lengthDelimited wire <|
    match depth with
    | 0 => fail .tooDeep
    | depth + 1 =>
      (mergeDelimited (Message.mergeField depth) (message.getD Message.blank) bytes).map
        fun (merged, rest) => (some merged, rest)
  view
    | none => .absent
    | some message => .record (Message.view message)
  ofView?
    | .absent => some none
    | .record values => (Message.ofView? values).map some
    | _ => none

/-- A list of nested messages. -/
def repeated : Shape (List N) where
  blank := []
  write order number messages :=
    messages.zipIdx.flatMap fun (message, place) =>
      writeContent number (Message.encodeOrdered (order.inside place) message)
  size number messages :=
    total (messages.map fun message => delimitedSize number (Message.encodedLength message))
  read depth wire messages bytes := expecting .lengthDelimited wire <|
    match depth with
    | 0 => fail .tooDeep
    | depth + 1 =>
      (mergeDelimited (Message.mergeField depth) (Message.blank : N) bytes).map
        fun (message, rest) => (messages ++ [message], rest)
  view messages := .records (messages.map Message.view)
  ofView?
    | .records items => items.mapM Message.ofView?
    | _ => none

end Shape

end MediaGateway.Protobuf
