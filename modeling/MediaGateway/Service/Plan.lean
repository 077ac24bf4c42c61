import MediaGateway.Api.Conversion
import MediaGateway.Api.Rpc
import MediaGateway.Storage
import MediaGateway.Text.Quoted

/-!
# What a call asks for

A request is either unacceptable or asks the storage for one operation, whose
result makes the response. A call that fails is answered by the same type of
message, in which nothing is set but the reason.
-/

namespace MediaGateway.Service

open Api

/-- What an acceptable request asks for. -/
structure Plan (ρ : Type) where
  /-- What is told before the storage is asked. -/
  started : Event
  /-- What the storage is asked to do. -/
  operation : Storage.Operation
  /-- The response for its result. -/
  respond : operation.Result → ρ

/-- What is told before the storage is asked. -/
def startedEvent (rpc : Rpc) (fields : List (String × Event.Value)) : Event :=
  .info .handlers ("Processing " ++ rpc.name ++ " request") fields

/-- The failure of a request about no file. -/
def requireFileId (fileId : String) : Except Fault Unit :=
  if fileId = "" then .error (.invalid "File ID is required") else .ok ()

/-- A number of files in 32 bits; one that does not fit becomes the largest that does. -/
def totalCount (count : Int64) : Int32 :=
  if -Int.pow 2 31 ≤ count.toInt ∧ count.toInt < Int.pow 2 31 then Int32.ofInt count.toInt
  else 2147483647

/-- The response that issues a credential. -/
def credentialResponse (publicKey : String) (credential : UploadCredential) :
    GetUploadAuthResponse where
  token := credential.token
  expire := credential.expire
  signature := credential.signature
  publicKey := publicKey
  success := true
  errorMessage := ""

/-- The response that shows a page of files. -/
def listingResponse (page : Listing) : GetFilesResponse where
  files := page.files.map FileDetails.ofFile
  success := true
  errorMessage := ""
  totalCount := totalCount page.totalCount

/-- The response that tells what became of a batch. -/
def batchResponse (outcomes : List DeleteOutcome) : DeleteMultipleFilesResponse where
  results := outcomes.map DeleteResult.ofOutcome
  allSuccess := outcomes.all (·.success)
  errorMessage := if outcomes.all (·.success) then "" else "Some files failed to delete"

/-- What a request for a credential asks for. -/
def planCredential (publicKey : String) : Plan GetUploadAuthResponse :=
  ⟨startedEvent .getUploadAuth [], .credential, credentialResponse publicKey⟩

/-- What a request to store a file asks for. -/
def planUpload (request : UploadFileRequest) : Except Fault (Plan UploadFileResponse) :=
  if request.fileData = [] then .error (.invalid "File data is required")
  else if request.filename = "" then .error (.invalid "Filename is required")
  else .ok {
    started := startedEvent .uploadFile
      [("filename", .text request.filename), ("folder", .text request.folder),
        ("tags", .text (Text.quotedList request.tags))]
    operation := .upload request.toUpload
    respond := fun file => ⟨some (.ofFile file), true, ""⟩ }

/-- What a request to describe a file asks for. -/
def planDetails (request : GetFileDetailsRequest) : Except Fault (Plan GetFileDetailsResponse) :=
  (requireFileId request.fileId).map fun _ => {
    started := startedEvent .getFileDetails [("file_id", .text request.fileId)]
    operation := .details request.fileId
    respond := fun file => ⟨some (.ofFile file), true, ""⟩ }

/-- What a request for a page of files asks for; the page is put right first. -/
def planList (request : GetFilesRequest) : Plan GetFilesResponse :=
  let query := request.toQuery.normalized
  { started := startedEvent .getFiles
      [("skip", .integer query.skip.toInt), ("limit", .integer query.limit.toInt),
        ("search_query", .text (Text.shownOption Text.quoted query.searchQuery)),
        ("tags", .text (Text.shownOption Text.quotedList query.tags)),
        ("file_type", .text (Text.shownOption Text.quoted query.fileType))]
    operation := .list query
    respond := listingResponse }

/-- What a request to change details of a file asks for. -/
def planUpdate (request : UpdateFileDetailsRequest) :
    Except Fault (Plan UpdateFileDetailsResponse) :=
  (requireFileId request.fileId).map fun _ => {
    started := startedEvent .updateFileDetails
      [("file_id", .text request.fileId), ("tags", .text (Text.quotedList request.tags))]
    operation := .update request.fileId request.toUpdate
    respond := fun file => ⟨some (.ofFile file), true, ""⟩ }

/-- What a request to delete a file asks for. -/
def planDelete (request : DeleteFileRequest) : Except Fault (Plan DeleteFileResponse) :=
  (requireFileId request.fileId).map fun _ => {
    started := startedEvent .deleteFile [("file_id", .text request.fileId)]
    operation := .delete request.fileId
    respond := fun _ => ⟨true, ""⟩ }

/-- What a request to delete several files asks for. -/
def planDeleteAll (request : DeleteMultipleFilesRequest) :
    Except Fault (Plan DeleteMultipleFilesResponse) :=
  if request.fileIds = [] then .error (.invalid "At least one file ID is required")
  else .ok {
    started := startedEvent .deleteMultipleFiles [("file_count", .integer request.fileIds.length)]
    operation := .deleteAll request.fileIds
    respond := batchResponse }

/-- What a request asks for, or why it is unacceptable. -/
def plan (publicKey : String) : (rpc : Rpc) → rpc.Request → Except Fault (Plan rpc.Response)
  | .getUploadAuth, _ => .ok (planCredential publicKey)
  | .uploadFile, request => planUpload request
  | .getFileDetails, request => planDetails request
  | .getFiles, request => .ok (planList request)
  | .updateFileDetails, request => planUpdate request
  | .deleteFile, request => planDelete request
  | .deleteMultipleFiles, request => planDeleteAll request

/-- The response in which nothing is set but the reason of a failure. -/
def refusal (reason : String) : (rpc : Rpc) → rpc.Response
  | .getUploadAuth => ⟨"", 0, "", "", false, reason⟩
  | .uploadFile => ⟨none, false, reason⟩
  | .getFileDetails => ⟨none, false, reason⟩
  | .getFiles => ⟨[], false, reason, 0⟩
  | .updateFileDetails => ⟨none, false, reason⟩
  | .deleteFile => ⟨false, reason⟩
  | .deleteMultipleFiles => ⟨[], false, reason⟩

/-- What a request is about, as it is told of a failure. -/
def subjectFields : (rpc : Rpc) → rpc.Request → List (String × Event.Value)
  | .uploadFile, request => [("filename", .text (UploadFileRequest.filename request))]
  | .getFileDetails, request => [("file_id", .text (GetFileDetailsRequest.fileId request))]
  | .updateFileDetails, request => [("file_id", .text (UpdateFileDetailsRequest.fileId request))]
  | .deleteFile, request => [("file_id", .text (DeleteFileRequest.fileId request))]
  | .getUploadAuth, _ => []
  | .getFiles, _ => []
  | .deleteMultipleFiles, _ => []

end MediaGateway.Service
