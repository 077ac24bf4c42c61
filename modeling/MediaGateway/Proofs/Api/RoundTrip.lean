import MediaGateway.Proofs.Api.Messages
import MediaGateway.Proofs.Protobuf.Measure

/-!
# The messages of the service survive writing and reading

Each message type of the service is lawful and measured. So the length that is
found without writing is the count of the octets, the octets read back in
whatever order the entries of maps come, and what was read from any octets is
still there when it is written and read again.
-/

namespace MediaGateway.Api

open Protobuf Protobuf.Shape

/-- The description of a file is measured. -/
theorem fileDetails_measured : Message.Measured FileDetails :=
  fileDetails_lawful.measured ⟨text_measured, text_measured, text_measured, text_measured,
    int64_measured, text_measured, texts_measured, text_measured, text_measured, text_measured,
    int32_measured, int32_measured, table_measured, trivial⟩

/-- What became of one of several files is measured. -/
theorem deleteResult_measured : Message.Measured DeleteResult :=
  deleteResult_lawful.measured ⟨text_measured, flag_measured, text_measured, trivial⟩

/-- A message type whose values read back within two levels of nesting and are measured. -/
structure Sturdy (type : MessageType) : Prop where
  /-- Values read back. -/
  lawful : ∃ levels ≤ 2, @Message.Lawful type.Carrier type.message levels
  /-- Lengths count octets, and reading is thrifty. -/
  measured : @Message.Measured type.Carrier type.message

/-- A lawful message type of measured fields is sturdy. -/
theorem sturdy_of_fields {M : Type} [message : Message M] {levels : Nat} (few : levels ≤ 2)
    (lawful : Message.Lawful M levels)
    (shapes : Everywhere (fun field => field.shape.Measured) (Message.fields (M := M))) :
    Sturdy ⟨M, message⟩ :=
  ⟨⟨levels, few, lawful⟩, lawful.measured shapes⟩

/-- Every message type of the service is sturdy. -/
theorem messageTypes_sturdy : ∀ type ∈ messageTypes, Sturdy type := by
  have hfile : Measured (nested (N := FileDetails)) := nested_measured fileDetails_measured
  have hfiles : Measured (repeated (N := FileDetails)) := repeated_measured fileDetails_measured
  have hresults : Measured (repeated (N := DeleteResult)) := repeated_measured deleteResult_measured
  simp only [messageTypes, List.forall_mem_cons]
  exact ⟨⟨⟨1, by decide, fileDetails_lawful⟩, fileDetails_measured⟩,
    sturdy_of_fields (by decide) getUploadAuthRequest_lawful trivial,
    sturdy_of_fields (by decide) getUploadAuthResponse_lawful
      ⟨text_measured, int64_measured, text_measured, text_measured, flag_measured, text_measured,
        trivial⟩,
    sturdy_of_fields (by decide) uploadFileRequest_lawful
      ⟨octets_measured, text_measured, text_measured, texts_measured, flag_measured, text_measured,
        trivial⟩,
    sturdy_of_fields (by decide) uploadFileResponse_lawful
      ⟨hfile, flag_measured, text_measured, trivial⟩,
    sturdy_of_fields (by decide) getFileDetailsRequest_lawful ⟨text_measured, trivial⟩,
    sturdy_of_fields (by decide) getFileDetailsResponse_lawful
      ⟨hfile, flag_measured, text_measured, trivial⟩,
    sturdy_of_fields (by decide) getFilesRequest_lawful
      ⟨int32_measured, int32_measured, text_measured, texts_measured, text_measured, text_measured,
        text_measured, trivial⟩,
    sturdy_of_fields (by decide) getFilesResponse_lawful
      ⟨hfiles, flag_measured, text_measured, int32_measured, trivial⟩,
    sturdy_of_fields (by decide) updateFileDetailsRequest_lawful
      ⟨text_measured, texts_measured, text_measured, table_measured, trivial⟩,
    sturdy_of_fields (by decide) updateFileDetailsResponse_lawful
      ⟨hfile, flag_measured, text_measured, trivial⟩,
    sturdy_of_fields (by decide) deleteFileRequest_lawful ⟨text_measured, trivial⟩,
    sturdy_of_fields (by decide) deleteFileResponse_lawful ⟨flag_measured, text_measured, trivial⟩,
    sturdy_of_fields (by decide) deleteMultipleFilesRequest_lawful ⟨texts_measured, trivial⟩,
    ⟨⟨0, by decide, deleteResult_lawful⟩, deleteResult_measured⟩,
    sturdy_of_fields (by decide) deleteMultipleFilesResponse_lawful
      ⟨hresults, flag_measured, text_measured, trivial⟩,
    fun _ none => absurd none List.not_mem_nil⟩

variable {M : Type} [message : Message M]

/-- The messages of the service survive writing and reading, in whatever order the entries of each
map are written. The length of a message that fits in 64 bits is the count of its octets, and the
octets read back as the message. What was read from any octets, which fill no more than half of the
addresses, survives being written and read once more. -/
theorem message_survives (member : ⟨M, message⟩ ∈ messageTypes) {order : EntryOrder}
    (complete : order.Complete) :
    (∀ value : M, Message.encodedLength value < octetBound →
      Message.encodedLength value = (Message.encodeOrdered order value).length ∧
        Message.decode (Message.encodeOrdered order value) = .ok value) ∧
    ∀ (bytes : Bytes) (value : M), 2 * bytes.length < octetBound →
      Message.decode bytes = .ok value →
        Message.decode (Message.encodeOrdered order value) = .ok value := by
  obtain ⟨⟨levels, few, lawful⟩, measured⟩ := messageTypes_sturdy _ member
  have hd : levels ≤ depthLimit := Nat.le_trans few (by decide)
  constructor
  · intro value hl
    have hc := measured.counted order complete value hl
    rw [hc] at hl
    exact ⟨hc, Message.decode_encodeOrdered lawful complete hd value hl⟩
  · intro bytes value hb hr
    have hl := measured.length_le_of_decode complete hr
    exact Message.decode_encodeOrdered lawful complete hd value (by omega)

/-- A file with two further facts, one of them without a name and the other without a value. -/
def tagged (id : String) : FileDetails :=
  { (Message.blank : FileDetails) with
    fileId := id, size := -1, tags := ["", "a"], width := -2,
    customMetadata := (TextMap.empty.insert "k" "").insert "" "v" }

/-- A page of two files that differ in their identifier only. -/
def twins : GetFilesResponse := ⟨[tagged "a", tagged "b"], true, "", -1⟩

/-- The order of the keys, but for the further facts of the second file of a page. -/
def turnedOnce : EntryOrder := fun places map =>
  if places = [1, 1, 13] then map.entries.reverse else map.entries

/-- Both orders have every entry. -/
theorem turnedOnce_complete : turnedOnce.Complete := by
  intro places map
  rw [turnedOnce]
  split
  · exact List.reverse_perm _
  · exact List.Perm.refl _

/-- A page in which two equal maps come in different orders survives, and so does what was read from
a number with an octet too many, a number that is cut to its field, and a field that is not
listed. -/
theorem twins_survive :
    Message.encodedLength twins < octetBound ∧
    Message.encodedLength twins = (Message.encodeOrdered turnedOnce twins).length ∧
    Message.decode (Message.encodeOrdered turnedOnce twins) = .ok twins ∧
    Message.decode [16, 129, 0, 32, 255, 255, 255, 255, 15, 40, 7] =
      .ok (⟨[], true, "", -1⟩ : GetFilesResponse) ∧
    Message.decode (Message.encodeOrdered turnedOnce (⟨[], true, "", -1⟩ : GetFilesResponse)) =
      .ok (⟨[], true, "", -1⟩ : GetFilesResponse) := by
  have hm : ⟨GetFilesResponse, inferInstance⟩ ∈ messageTypes := by
    simp [messageTypes]
  have hs := message_survives hm turnedOnce_complete
  have hl : Message.encodedLength twins < octetBound := by decide +kernel
  have hr : Message.decode [16, 129, 0, 32, 255, 255, 255, 255, 15, 40, 7] =
      .ok (⟨[], true, "", -1⟩ : GetFilesResponse) := by
    set_option maxRecDepth 4000 in rfl
  exact ⟨hl, (hs.1 twins hl).1, (hs.1 twins hl).2, hr, hs.2 _ _ (by decide) hr⟩

end MediaGateway.Api
