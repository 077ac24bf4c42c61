import MediaGateway.Proofs.Api.Messages
import MediaGateway.Proofs.Api.RoundTrip
import MediaGateway.Proofs.Protobuf.Effect

/-!
# The messages of the service are merged

The octets of every message type of the service are merged field by field. What stands
behind other octets is merged onto the message that those hold, and a field that is not
listed does nothing, so that an older reader passes over what a newer writer adds.
-/

namespace MediaGateway.Api

open Protobuf Protobuf.Shape

/-- The description of a file is effective. -/
theorem fileDetails_effective : Message.Effective FileDetails :=
  ⟨⟨_, .text⟩, ⟨_, .text⟩, ⟨_, .text⟩, ⟨_, .text⟩, ⟨_, .int64⟩, ⟨_, .text⟩, ⟨_, .texts⟩,
    ⟨_, .text⟩, ⟨_, .text⟩, ⟨_, .text⟩, ⟨_, .int32⟩, ⟨_, .int32⟩, ⟨_, .table⟩, trivial⟩

/-- What became of one of several files is effective. -/
theorem deleteResult_effective : Message.Effective DeleteResult :=
  ⟨⟨_, .text⟩, ⟨_, .flag⟩, ⟨_, .text⟩, trivial⟩

/-- Every message type of the service is merged as the effects of its fields tell. -/
theorem messageTypes_merge : ∀ type ∈ messageTypes,
    @Message.Merges type.Carrier type.message := by
  have hfile := nested_hasEffect fileDetails_effective
  have hfiles := repeated_hasEffect fileDetails_effective
  have hresults := repeated_hasEffect deleteResult_effective
  simp only [messageTypes, List.forall_mem_cons]
  exact ⟨fileDetails_lawful.merges fileDetails_effective,
    getUploadAuthRequest_lawful.merges trivial,
    getUploadAuthResponse_lawful.merges
      ⟨⟨_, .text⟩, ⟨_, .int64⟩, ⟨_, .text⟩, ⟨_, .text⟩, ⟨_, .flag⟩, ⟨_, .text⟩, trivial⟩,
    uploadFileRequest_lawful.merges
      ⟨⟨_, .octets⟩, ⟨_, .text⟩, ⟨_, .text⟩, ⟨_, .texts⟩, ⟨_, .flag⟩, ⟨_, .text⟩, trivial⟩,
    uploadFileResponse_lawful.merges ⟨hfile, ⟨_, .flag⟩, ⟨_, .text⟩, trivial⟩,
    getFileDetailsRequest_lawful.merges ⟨⟨_, .text⟩, trivial⟩,
    getFileDetailsResponse_lawful.merges ⟨hfile, ⟨_, .flag⟩, ⟨_, .text⟩, trivial⟩,
    getFilesRequest_lawful.merges
      ⟨⟨_, .int32⟩, ⟨_, .int32⟩, ⟨_, .text⟩, ⟨_, .texts⟩, ⟨_, .text⟩, ⟨_, .text⟩, ⟨_, .text⟩,
        trivial⟩,
    getFilesResponse_lawful.merges ⟨hfiles, ⟨_, .flag⟩, ⟨_, .text⟩, ⟨_, .int32⟩, trivial⟩,
    updateFileDetailsRequest_lawful.merges
      ⟨⟨_, .text⟩, ⟨_, .texts⟩, ⟨_, .text⟩, ⟨_, .table⟩, trivial⟩,
    updateFileDetailsResponse_lawful.merges ⟨hfile, ⟨_, .flag⟩, ⟨_, .text⟩, trivial⟩,
    deleteFileRequest_lawful.merges ⟨⟨_, .text⟩, trivial⟩,
    deleteFileResponse_lawful.merges ⟨⟨_, .flag⟩, ⟨_, .text⟩, trivial⟩,
    deleteMultipleFilesRequest_lawful.merges ⟨⟨_, .texts⟩, trivial⟩,
    deleteResult_lawful.merges deleteResult_effective,
    deleteMultipleFilesResponse_lawful.merges ⟨hresults, ⟨_, .flag⟩, ⟨_, .text⟩, trivial⟩,
    fun _ none => absurd none List.not_mem_nil⟩

/-- Octets in which the identifier of a file is written, octets in which its name is, and between
them a group that no message lists, with a number in it. -/
theorem file_merged_in_two :
    Message.decode [10, 3, 10, 1, 97] =
      .ok (⟨some { (Message.blank : FileDetails) with fileId := "a" }, false, ""⟩ :
        UploadFileResponse) ∧
    Message.decode ([10, 3, 10, 1, 97] ++ ([123] ++ [8, 1, 124]) ++ [10, 3, 18, 1, 98]) =
      .ok (⟨some { (Message.blank : FileDetails) with fileId := "a", name := "b" }, false, ""⟩ :
        UploadFileResponse) := by
  have hm : ⟨UploadFileResponse, inferInstance⟩ ∈ messageTypes := by
    simp [messageTypes]
  have merges := messageTypes_merge _ hm
  have hd : Message.decode [10, 3, 10, 1, 97] =
      .ok (⟨some { (Message.blank : FileDetails) with fileId := "a" }, false, ""⟩ :
        UploadFileResponse) := by
    set_option maxRecDepth 4000 in rfl
  have hk : IsKey [123] 15 .startGroup :=
    ⟨⟨.last (by decide), by decide, by decide⟩, by decide, by decide⟩
  have hi : IsKey [8] 1 .varint := ⟨⟨.last (by decide), by decide, by decide⟩, by decide, by decide⟩
  have he : IsKey [124] 15 .endGroup :=
    ⟨⟨.last (by decide), by decide, by decide⟩, by decide, by decide⟩
  have hv : WellFormed 99 1 .varint [1] := ⟨1, .last (by decide), by decide, by decide⟩
  have hw : WellFormed depthLimit 15 .startGroup ([8] ++ [1] ++ [124]) :=
    .field hi (by decide) hv (.ends he)
  have hu : ∀ field ∈ Message.fields (M := UploadFileResponse), field.number ≠ 15 :=
    Message.fieldNumbered_eq_none_iff.mp rfl
  have hp := merges.passed _ [123] _ [10, 3, 18, 1, 98] _ 15 .startGroup hd hk hu hw
  refine ⟨hd, hp.trans ?_⟩
  rw [merges.append _ _ _ hd]
  set_option maxRecDepth 4000 in rfl

end MediaGateway.Api
