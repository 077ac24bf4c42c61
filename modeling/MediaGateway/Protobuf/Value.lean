/-!
# Values without a message type

A message of any type can be looked at as its field names with values that say
of themselves what they are. Tools that know a message only by its description
work on this form.
-/

namespace MediaGateway.Protobuf

/-- A field's value together with its kind. -/
inductive Value where
  /-- A text. -/
  | text (content : String)
  /-- Octets. -/
  | octets (content : List UInt8)
  /-- An integer. -/
  | integer (content : Int)
  /-- A truth value. -/
  | flag (content : Bool)
  /-- A list of texts. -/
  | texts (content : List String)
  /-- A map from text to text, by its entries. -/
  | table (entries : List (String × String))
  /-- A nested message that is not there. -/
  | absent
  /-- A nested message, by its fields. -/
  | record (fields : List (String × Value))
  /-- A list of nested messages. -/
  | records (items : List (List (String × Value)))
  deriving Repr, Inhabited

end MediaGateway.Protobuf
