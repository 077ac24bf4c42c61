import MediaGateway.Proofs.Service.History

/-!
# The response of a call

A call whose operation has a result ends in the response for that result. Where it
shows a file, it has the fields of the file one by one.
-/

namespace MediaGateway

/-- A description has the fields of a file. -/
structure Api.FileDetails.Shows (details : Api.FileDetails) (file : StoredFile) : Prop where
  /-- The identifier. -/
  fileId : details.fileId = file.fileId
  /-- The name. -/
  name : details.name = file.name
  /-- The address. -/
  url : details.url = file.url
  /-- The address of a small picture. -/
  thumbnailUrl : details.thumbnailUrl = file.thumbnailUrl
  /-- The size. -/
  size : details.size = file.size
  /-- The kind. -/
  fileType : details.fileType = file.fileType
  /-- The tags. -/
  tags : details.tags = file.tags
  /-- The folder. -/
  folderPath : details.folderPath = file.folderPath
  /-- When it was stored. -/
  createdAt : details.createdAt = file.createdAt
  /-- When it was changed. -/
  updatedAt : details.updatedAt = file.updatedAt
  /-- The width. -/
  width : details.width = file.width
  /-- The height. -/
  height : details.height = file.height
  /-- The further facts. -/
  customMetadata : details.customMetadata = file.customMetadata

/-- The description of a file shows it. -/
theorem Api.FileDetails.shows_ofFile (file : StoredFile) :
    (Api.FileDetails.ofFile file).Shows file :=
  ⟨rfl, rfl, rfl, rfl, rfl, rfl, rfl, rfl, rfl, rfl, rfl, rfl, rfl⟩

/-- A response of success that shows one file. -/
def Api.Rpc.ShowsFile : (rpc : Api.Rpc) → rpc.Response → StoredFile → Prop
  | .uploadFile, (response : Api.UploadFileResponse), file =>
    response.success = true ∧ response.errorMessage = "" ∧
      ∃ details, response.file = some details ∧ details.Shows file
  | .getFileDetails, (response : Api.GetFileDetailsResponse), file =>
    response.success = true ∧ response.errorMessage = "" ∧
      ∃ details, response.file = some details ∧ details.Shows file
  | .updateFileDetails, (response : Api.UpdateFileDetailsResponse), file =>
    response.success = true ∧ response.errorMessage = "" ∧
      ∃ details, response.file = some details ∧ details.Shows file
  | _, _, _ => False

namespace Service

open Api (Rpc)
open Grpc (Status)
open Storage (Remote)

/-- A call whose operation has a result ends in the response for it. -/
theorem call_of_done (settings : Settings) (remote : Remote) (took : Nat → Chain.Reading)
    {rpc : Rpc} {request : rpc.Request} {state : State Remote.State} (reached : Reached state)
    (h : objection? rpc request = none) {result : (operationOf rpc request).Result}
    (hr : (remote.storage (operationOf rpc request) state.storage).outcome = .done result) :
    (call settings remote.storage took rpc request state).ending =
      .answered (.ok (responseOf settings.ikPublicKey rpc request result)) := by
  obtain ⟨_, hh⟩ := handler_responds settings.ikPublicKey remote.storage h state.storage hr
  have he : (handler settings.ikPublicKey remote.storage rpc request state.storage).1 =
      .returned ((Except.ok (responseOf settings.ikPublicKey rpc request result) :
        Except Status rpc.Response).map .response) := by
    rw [hh]
    rfl
  exact (call_ends took reached he).1

end Service

end MediaGateway
