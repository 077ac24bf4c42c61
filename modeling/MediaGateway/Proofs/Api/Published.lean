import MediaGateway.Api.Description
import MediaGateway.Proofs.Api.RoundTrip
import MediaGateway.Proofs.Protobuf.Described

/-!
# The published description is true

The description that the service publishes is written down apart from the message types
that it serves. Each of the types is described under its name: the fields have its names
and numbers, and their types and labels and the entries of its maps convey its shapes.
-/

namespace MediaGateway.Api

open Protobuf Protobuf.Descriptor Protobuf.Shape

/-- The full name under which a message type is published. -/
def typeName (name : String) : String := fullName Description.package name

/-- The published fields of the message type with a name. -/
def publishedFields (name : String) : List FieldInfo :=
  match declared? Description.files (typeName name) with
  | some (.message fields) => fields
  | _ => []

/-- The fields of the published entries of maps. -/
def entryFields : List FieldInfo :=
  [Description.single "key" 1 .string, Description.single "value" 2 .string]

/-- Every message type is declared under its name. -/
theorem messageTypes_declared : ∀ type ∈ messageTypes,
    declared? Description.files (typeName type.message.name) =
      some (.message (publishedFields type.message.name)) := by
  have hn : ∀ name ∈ messageTypes.map (·.message.name),
      declared? Description.files (typeName name) = some (.message (publishedFields name)) := by
    decide +kernel
  exact fun type member => hn _ (List.mem_map_of_mem member)

/-- The entries of the published maps are from text to text. -/
theorem entryFields_understood : parts? Description.files entryFields = some entryParts := by
  decide +kernel

/-- The description of a file is described. -/
theorem fileDetails_described :
    Describes Description.files 1 (publishedFields "FileDetails") FileDetails :=
  ⟨[.text, .text, .text, .text, .int64, .text, .texts, .text, .text, .text, .int32, .int32,
      .table entryFields], by decide +kernel,
    text_conveys, text_conveys, text_conveys, text_conveys, int64_conveys, text_conveys,
    texts_conveys, text_conveys, text_conveys, text_conveys, int32_conveys, int32_conveys,
    table_conveys entryFields_understood, trivial⟩

/-- What became of one of several files is described. -/
theorem deleteResult_described :
    Describes Description.files 0 (publishedFields "DeleteResult") DeleteResult :=
  ⟨[.text, .flag, .text], by decide +kernel, text_conveys, flag_conveys, text_conveys, trivial⟩

/-- Every message type is described by its published fields. -/
theorem messageTypes_described : ∀ type ∈ messageTypes, ∃ levels ≤ depthLimit,
    @Describes Description.files levels (publishedFields type.message.name) type.Carrier
      type.message := by
  have hfile := nested_conveys fileDetails_described fileDetails_lawful
  have hfiles := repeated_conveys fileDetails_described fileDetails_lawful
  have hresults := repeated_conveys deleteResult_described deleteResult_lawful
  have hmap : Conveys Description.files 1 (.table entryFields) table :=
    table_conveys entryFields_understood
  simp only [messageTypes, List.forall_mem_cons]
  exact ⟨⟨1, by decide, fileDetails_described⟩,
    ⟨0, by decide, [], by decide +kernel, trivial⟩,
    ⟨0, by decide, [.text, .int64, .text, .text, .flag, .text], by decide +kernel,
      text_conveys, int64_conveys, text_conveys, text_conveys, flag_conveys, text_conveys, trivial⟩,
    ⟨0, by decide, [.octets, .text, .text, .texts, .flag, .text], by decide +kernel,
      octets_conveys, text_conveys, text_conveys, texts_conveys, flag_conveys, text_conveys,
      trivial⟩,
    ⟨2, by decide, [.message (publishedFields "FileDetails"), .flag, .text], by decide +kernel,
      hfile, flag_conveys, text_conveys, trivial⟩,
    ⟨0, by decide, [.text], by decide +kernel, text_conveys, trivial⟩,
    ⟨2, by decide, [.message (publishedFields "FileDetails"), .flag, .text], by decide +kernel,
      hfile, flag_conveys, text_conveys, trivial⟩,
    ⟨0, by decide, [.int32, .int32, .text, .texts, .text, .text, .text], by decide +kernel,
      int32_conveys, int32_conveys, text_conveys, texts_conveys, text_conveys, text_conveys,
      text_conveys, trivial⟩,
    ⟨2, by decide, [.messages (publishedFields "FileDetails"), .flag, .text, .int32],
      by decide +kernel, hfiles, flag_conveys, text_conveys, int32_conveys, trivial⟩,
    ⟨1, by decide, [.text, .texts, .text, .table entryFields], by decide +kernel,
      text_conveys, texts_conveys, text_conveys, hmap, trivial⟩,
    ⟨2, by decide, [.message (publishedFields "FileDetails"), .flag, .text], by decide +kernel,
      hfile, flag_conveys, text_conveys, trivial⟩,
    ⟨0, by decide, [.text], by decide +kernel, text_conveys, trivial⟩,
    ⟨0, by decide, [.flag, .text], by decide +kernel, flag_conveys, text_conveys, trivial⟩,
    ⟨0, by decide, [.texts], by decide +kernel, texts_conveys, trivial⟩,
    ⟨0, by decide, deleteResult_described⟩,
    ⟨1, by decide, [.messages (publishedFields "DeleteResult"), .flag, .text], by decide +kernel,
      hresults, flag_conveys, text_conveys, trivial⟩,
    fun _ none => absurd none List.not_mem_nil⟩

/-- The published description tells of every message type under its name. -/
theorem messageTypes_told : ∀ type ∈ messageTypes,
    @Told Description.files (typeName type.message.name) type.Carrier type.message := by
  intro type member
  obtain ⟨levels, few, describes⟩ := messageTypes_described type member
  obtain ⟨⟨height, _, lawful⟩, _⟩ := messageTypes_sturdy type member
  exact @Describes.told type.Carrier Description.files levels type.message _ height describes
    lawful few _ (messageTypes_declared type member)

end MediaGateway.Api
