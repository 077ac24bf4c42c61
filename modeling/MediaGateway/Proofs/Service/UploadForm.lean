import MediaGateway.Proofs.Bytes.Base64
import MediaGateway.Proofs.Service.Sending
import MediaGateway.Proofs.Storage.Ceiling
import MediaGateway.Proofs.Storage.Pairs

/-!
# The form of an upload

A file is handed over in a form: its content in base64, its name and whether the name is
made unique, and then what else the request gives, each as it is given.
-/

namespace MediaGateway

open Storage (Remote)

namespace Api.UploadFileRequest

/-- The parts of a form for a request, where the content and the tags are written as they are in
these texts. -/
def form (request : UploadFileRequest) (content joined : String) : List (String × String) :=
  [("file", content), ("fileName", request.filename),
    ("useUniqueFileName", if request.useUniqueFilename then "true" else "false")]
    ++ given "folder" request.folder
    ++ (if request.tags = [] then [] else [("tags", joined)])
    ++ given "customCoordinates" request.customCoordinates

/-- Texts from which the content and the tags of a request are read back. -/
structure ReadsBack (request : UploadFileRequest) (content joined : String) : Prop where
  /-- One is the content in padded base64. -/
  content : Base64.decode? content = some request.fileData
  /-- The other is divided into the tags at its commas, if there are tags and none has a comma. -/
  tags : request.tags ≠ [] → (∀ tag ∈ request.tags, ',' ∉ tag.toList) →
    (joined.toList.splitOn ',').map String.ofList = request.tags

/-- A request for a file that is there, has a name and is not larger than the settings allow. -/
structure Acceptable (settings : Settings) (request : UploadFileRequest) : Prop where
  /-- There is content. -/
  fileData : request.fileData ≠ []
  /-- There is a name. -/
  filename : request.filename ≠ ""
  /-- The content is within the ceiling. -/
  within : request.fileData.length ≤ settings.maxFileSizeMb.toNat * Upload.mebibyte

/-- The storage hands over the form for the request. -/
theorem uploadParts_toUpload (request : UploadFileRequest) :
    Remote.uploadParts request.toUpload =
      request.form (Base64.encode request.fileData) (String.intercalate "," request.tags) := by
  have folder := pairOf_presentText "folder" request.folder
  have tags := pairOf_presentList "tags" request.tags
  have coordinates := pairOf_presentText "customCoordinates" request.customCoordinates
  rw [form, ← folder, ← tags, ← coordinates]
  rfl

/-- What is sent to upload the file of a request. -/
theorem uploadInquiry_request (config : StorageConfig) (request : UploadFileRequest) :
    (Remote.uploadInquiry config request.toUpload).request =
      Remote.textRequest config .post (Remote.uploadAddress config) []
        (.form (request.form (Base64.encode request.fileData)
          (String.intercalate "," request.tags))) := by
  rw [← uploadParts_toUpload]
  rfl

/-- The content and the tags are read back from what is handed over. -/
theorem readsBack (request : UploadFileRequest) :
    request.ReadsBack (Base64.encode request.fileData) (String.intercalate "," request.tags) :=
  ⟨Base64.decode?_encode request.fileData, splitOn_intercalate⟩

end Api.UploadFileRequest

namespace Service

open Api (UploadFileRequest)

/-- A call with such a request is accepted. -/
theorem accepted_of_acceptable {settings : Settings} {config : StorageConfig}
    (same : config = .ofSettings settings) {request : UploadFileRequest}
    (acceptable : request.Acceptable settings) : Accepted config .uploadFile request := by
  have within : Remote.isTooLarge config request.toUpload = false := by
    rw [same]
    exact Remote.isTooLarge_of_within acceptable.within
  have named : objection? .uploadFile request = none :=
    (if_neg acceptable.fileData).trans (if_neg acceptable.filename)
  have taken : Remote.refusal? config (operationOf .uploadFile request) = none :=
    if_neg (Bool.eq_false_iff.mp within)
  exact ⟨named, taken⟩

/-- A file is uploaded in a form whose parts are those of its request, in order: the content is read
back from the first of them octet by octet, and the tags from theirs, if none has a comma. Where the
base address for uploads can be read, a call tries one request with this form, and whatever the base
address and the provider do, everything that it sends hands over this form or nothing. -/
theorem upload_hands_over_form (settings : Settings) (request : UploadFileRequest)
    (acceptable : request.Acceptable settings) :
    ∃ content joined, request.ReadsBack content joined ∧
      ∀ (remote : Remote) (took : Nat → Chain.Reading) (state : State Remote.State),
        remote.config = .ofSettings settings → Reached state →
          HandsOver remote .post (.form (request.form content joined))
            (fun place => Url.read (Remote.uploadAddress remote.config) = .ok place ∧
              place.hasHost = true)
            state.storage.sent
            (call settings remote.storage took .uploadFile request state).state.storage.sent := by
  refine ⟨_, _, request.readsBack, fun remote took state same reached => ?_⟩
  have accepted := accepted_of_acceptable same acceptable
  have asks : remote.storage (operationOf .uploadFile request) state.storage =
      remote.ask (Remote.uploadInquiry remote.config request.toUpload) state.storage :=
    Remote.storage_asks accepted.2 rfl state.storage
  have sends := request.uploadInquiry_request remote.config
  refine call_handsOver settings remote took reached accepted.1 asks ?_ fun first ready => ?_
  · rintro place ⟨reads, hosted⟩
    exact sends.trans (Remote.textRequest_hosted remote.config .post reads hosted _)
  · rw [sends] at ready
    exact Remote.body_of_textRequest ready

/-- Four octets that are no text, under a name with an accent. -/
def accentedUpload : UploadFileRequest where
  fileData := [0xFF, 0x00, 0x0A, 0xC3]
  filename := "\u00fc.png"
  folder := ""
  tags := ["a", "b"]
  useUniqueFilename := false
  customCoordinates := "1,2"

/-- Where it is uploaded. -/
def uploadPlace : Url :=
  ⟨"http", some ⟨"[::1]", none⟩, .segments ["api", "v1", "files", "upload"], none, none⟩

/-- They are uploaded in five parts: without a folder, and with a name that is kept. -/
theorem accented_upload_handed_over :
    accentedUpload.Acceptable (countingSettings true) ∧
      ∃ content joined, Base64.decode? content = some [0xFF, 0x00, 0x0A, 0xC3] ∧
        (joined.toList.splitOn ',').map String.ofList = ["a", "b"] ∧
        (call (countingSettings true) Remote.silentRemote.storage (fun _ => 7) .uploadFile
          accentedUpload (.initial ⟨[], []⟩)).state.storage.sent =
            [⟨.post, uploadPlace, Remote.credential (.ofSettings (countingSettings true)),
              .form [("file", content), ("fileName", "\u00fc.png"), ("useUniqueFileName", "false"),
                ("tags", joined), ("customCoordinates", "1,2")]⟩] := by
  have acceptable : accentedUpload.Acceptable (countingSettings true) :=
    ⟨by decide, by decide, by decide⟩
  have reads : Url.read (Remote.uploadAddress Remote.silentRemote.config) = .ok uploadPlace := by
    decide +kernel
  have sendable : Http.isSendable uploadPlace = true := by decide +kernel
  obtain ⟨content, joined, back, calls⟩ := upload_hands_over_form _ _ acceptable
  have hands := calls Remote.silentRemote (fun _ => 7) (.initial ⟨[], []⟩) silent_config.symm
    (.initial [])
  have sent := (hands.tried uploadPlace ⟨reads, rfl⟩).of_silent (fun _ => rfl) sendable
  have plain : ∀ tag ∈ accentedUpload.tags, ',' ∉ tag.toList := by decide
  exact ⟨acceptable, content, joined, back.content, back.tags (by decide) plain, sent⟩

end Service

end MediaGateway
