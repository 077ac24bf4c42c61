import MediaGateway.Digest.Hmac
import MediaGateway.Settings
import MediaGateway.Storage.Answers
import MediaGateway.Storage.Inquiry
import MediaGateway.Text.Quoted
import MediaGateway.Uuid

/-!
# The storage behind the service

Files are kept by a provider that is asked over HTTP. A file that is too large
and a batch that is too long are refused before anything is sent, and so is an
identifier made of dots alone. Credentials are issued without asking anybody.
-/

namespace MediaGateway.Storage

/-- The storage and what it depends on. -/
structure Remote where
  /-- How the storage is set up. -/
  config : StorageConfig
  /-- The second at which everything happens. -/
  now : Int
  /-- What becomes of requests. -/
  provider : Http.Provider

/-- What changes while the storage is used. -/
structure Remote.State where
  /-- The requests sent so far, the first of them first. -/
  sent : List Http.Request
  /-- The random octets of the identifiers to come, sixteen for each; zeros after the last. -/
  random : List Bytes

/-- What is told when the storage is ready. -/
def Remote.readyEvent : Event := .info .storage "ImageKit client initialized successfully" []

namespace Remote

/-- The address of something under the base address. -/
def apiAddress (config : StorageConfig) (path : String) : String :=
  config.apiBaseUrl ++ "/v1/" ++ path

/-- The address that uploads go to. -/
def uploadAddress (config : StorageConfig) : String :=
  config.uploadBaseUrl ++ "/api/v1/files/upload"

/-- The credential of every request. -/
def credential (config : StorageConfig) : Option String :=
  some (Http.basicCredential config.privateKey)

/-- The failure of a base address that is none. -/
def badBase (reason : String) : Fault := .internal ("Invalid ImageKit API URL" ++ reason)

/-- The address of one file, or of something about it. The identifier is one segment of the
path, whatever it holds; dots alone are refused. -/
def fileAddress (config : StorageConfig) (fileId : String) (about : List String) :
    Except Fault Url :=
  if fileId = "." ∨ fileId = ".." then .error (.invalid ("Invalid file ID: " ++ fileId))
  else match Url.read (apiAddress config "files") with
    | .error problem => .error (badBase (": " ++ problem.text))
    | .ok url =>
      match url.pushAll? (fileId :: about) with
      | none => .error (badBase "")
      | some place => .ok place

/-- A request about one file. -/
def fileRequest (config : StorageConfig) (method : Http.Method) (fileId : String)
    (about : List String) (body : Http.Body) : Prepared :=
  match fileAddress config fileId about with
  | .error fault => .withheld fault
  | .ok url => .ready ⟨method, url, credential config, body⟩

/-- A request to an address given as a text, with pairs for its query. -/
def textRequest (config : StorageConfig) (method : Http.Method) (address : String)
    (pairs : List Url.Form.Pair) (body : Http.Body) : Prepared :=
  match Url.read address with
  | .error _ => .unsendable .noAddress
  | .ok url =>
    if url.hasHost then
      let place := if pairs = [] then url else url.withPairs pairs
      .ready ⟨method, place, credential config, body⟩
    else .unsendable (.badAddress url)

/-- The result of an answer whose body must be readable in a given way. -/
def readBody {α : Type} (read : Bytes → Option α) (answer : Http.Answer) :
    Except Http.Problem α := do
  let body ← answer.wholeBody
  match read body with
  | some result => .ok result
  | none => .error .undecodable

/-- A quoted text that may be missing. -/
def shownText (text : Option String) : Event.Value :=
  .text (Text.shownOption Text.quoted text)

/-- A quoted list that may be missing. -/
def shownTexts (texts : Option (List String)) : Event.Value :=
  .text (Text.shownOption Text.quotedList texts)

/-- Texts with commas between them. -/
def commaJoined (texts : List String) : String := String.intercalate "," texts

/-- A pair, where there is a value. -/
def pairOf (name : String) : Option String → List (String × String)
  | none => []
  | some value => [(name, value)]

/-- Second until which a credential holds. -/
def lapse (now : Int) : Int64 := Int64.ofInt (now + 1800)

/-- The signature of a token and the second at which it lapses. -/
def signature (privateKey token : String) (expire : Int64) : String :=
  Bytes.toHex (Hmac.sha1 (Bytes.ofText privateKey)
    (Bytes.ofText (token ++ toString expire.toInt)))

/-- The credential made from random octets. -/
def uploadCredential (privateKey : String) (now : Int) (random : Bytes) : UploadCredential :=
  let token := Uuid.ofRandom random
  ⟨token, lapse now, signature privateKey token (lapse now)⟩

/-- Sixteen zeros, for when random octets run out. -/
def noRandom : Bytes := List.replicate 16 0

/-- The parts of the form that uploads a file. -/
def uploadParts (upload : Upload) : List (String × String) :=
  [("file", Base64.encode upload.content), ("fileName", upload.filename),
    ("useUniqueFileName", if upload.useUniqueFilename then "true" else "false")]
    ++ pairOf "folder" upload.folder
    ++ pairOf "tags" (upload.tags.map commaJoined)
    ++ pairOf "customCoordinates" upload.customCoordinates

/-- The failure of a file that is too large. -/
def tooLarge (config : StorageConfig) (upload : Upload) : Fault :=
  ⟨.sizeExceeded, "File size " ++ upload.sizeMb.toFixed2 ++ "MB exceeds limit of "
    ++ toString config.maxFileSizeMb.toNat ++ "MB", none⟩

/-- Whether a file is larger than the storage takes. -/
def isTooLarge (config : StorageConfig) (upload : Upload) : Bool :=
  (Binary64.ofNat config.maxFileSizeMb.toNat).less upload.sizeMb

/-- What is told of a file that is too large. -/
def tooLargeEvent (config : StorageConfig) (upload : Upload) : Event :=
  .error .storage "File upload rejected"
    [("filename", .text upload.filename), ("size_mb", .text upload.sizeMb.toFixed2),
      ("error", .text (tooLarge config upload).message)]

/-- Storing a file. -/
def uploadInquiry (config : StorageConfig) (upload : Upload) : Inquiry StoredFile where
  started := .info .storage "Uploading file"
    [("filename", .text upload.filename), ("size_mb", .text upload.sizeMb.toFixed2),
      ("folder", shownText upload.folder), ("tags", shownTexts upload.tags)]
  request := textRequest config .post (uploadAddress config) [] (.form (uploadParts upload))
  subject := none
  context := "Upload failed"
  failedText := "File upload failed"
  failedFields := [("filename", .text upload.filename)]
  accepts := Http.isSuccess
  result := readBody readFile?
  finished := fun file =>
    .info .storage "File uploaded successfully" [("file_id", .text file.fileId)]

/-- Describing a file. -/
def detailsInquiry (config : StorageConfig) (fileId : String) : Inquiry StoredFile where
  started := .info .storage "Fetching file details" [("file_id", .text fileId)]
  request := fileRequest config .get fileId ["details"] .empty
  subject := some fileId
  context := "Failed to get file details"
  failedText := "Failed to get file details"
  failedFields := [("file_id", .text fileId)]
  accepts := Http.isSuccess
  result := readBody readFile?
  finished := fun _ => .info .storage "File details retrieved" [("file_id", .text fileId)]

/-- The pairs of a query. -/
def queryPairs (query : ListQuery) : List Url.Form.Pair :=
  [("skip", toString query.skip.toInt), ("limit", toString query.limit.toInt)]
    ++ pairOf "searchQuery" query.searchQuery
    ++ pairOf "tags" (query.tags.map commaJoined)
    ++ pairOf "type" query.fileType ++ pairOf "fileType" query.fileType
    ++ pairOf "sort" query.sort
    ++ pairOf "path" query.path

/-- A page of files with the number of all that match: the one stated, else that of the page. -/
def listing (answer : Http.Answer) (files : List StoredFile) : Listing :=
  ⟨files, (statedTotal? answer).getD (Int64.ofNat files.length)⟩

/-- What is told of a query. -/
def queryFields (query : ListQuery) : List (String × Event.Value) :=
  [("skip", .integer query.skip.toInt), ("limit", .integer query.limit.toInt),
    ("search_query", shownText query.searchQuery), ("tags", shownTexts query.tags),
    ("file_type", shownText query.fileType)]

/-- Listing a page of files. -/
def listInquiry (config : StorageConfig) (query : ListQuery) : Inquiry Listing where
  started := .info .storage "Listing files" (queryFields query)
  request := textRequest config .get (apiAddress config "files") (queryPairs query) .empty
  subject := none
  context := "Failed to list files"
  failedText := "Failed to list files"
  failedFields := []
  accepts := Http.isSuccess
  result := fun answer => (readBody readFiles? answer).map (listing answer)
  finished := fun page => .info .storage "Files listed successfully"
    [("count", .integer page.files.length), ("total_count", .integer page.totalCount.toInt)]

/-- Deleting a file. -/
def deleteInquiry (config : StorageConfig) (fileId : String) : Inquiry Unit where
  started := .info .storage "Deleting file" [("file_id", .text fileId)]
  request := fileRequest config .delete fileId [] .empty
  subject := some fileId
  context := "Failed to delete file"
  failedText := "Failed to delete file"
  failedFields := [("file_id", .text fileId)]
  accepts := (· = 204)
  result := fun _ => .ok ()
  finished := fun _ => .info .storage "File deleted successfully" [("file_id", .text fileId)]

/-- The failure of a batch that is too long. -/
def tooMany (config : StorageConfig) : Fault :=
  ⟨.batchFailure, "Cannot delete more than " ++ toString config.maxFilesPerBatchDelete.toNat
    ++ " files at once", none⟩

/-- Whether a batch is longer than the storage takes. -/
def isTooMany (config : StorageConfig) (fileIds : List String) : Bool :=
  config.maxFilesPerBatchDelete.toNat < fileIds.length

/-- What is told of a batch that is too long. -/
def tooManyEvent (config : StorageConfig) (fileIds : List String) : Event :=
  .error .storage "Bulk delete rejected"
    [("file_count", .integer fileIds.length), ("error", .text (tooMany config).message)]

/-- The text that asks for a batch to be deleted. -/
def batchBody (fileIds : List String) : String :=
  (Json.Value.record [("fileIds", Json.texts fileIds)]).compact

/-- How many outcomes are successes. -/
def successes (outcomes : List DeleteOutcome) : Nat := (outcomes.filter (·.success)).length

/-- Deleting several files. -/
def deleteAllInquiry (config : StorageConfig) (fileIds : List String) :
    Inquiry (List DeleteOutcome) where
  started := .info .storage "Bulk deleting files" [("file_count", .integer fileIds.length)]
  request := textRequest config .post (apiAddress config "files/batch/deleteByFileIds") []
    (.json (batchBody fileIds))
  subject := none
  context := "Bulk delete failed"
  failedText := "Bulk delete failed"
  failedFields := []
  accepts := Http.isSuccess
  result := fun answer => (readBody readBatch? answer).map fun report => fileIds.map report.outcome
  finished := fun outcomes => .info .storage "Bulk delete completed"
    [("total", .integer fileIds.length), ("successful", .integer (successes outcomes)),
      ("failed", .integer (fileIds.length - successes outcomes : Nat))]

/-- A named value, where there is one. -/
def entryOf (name : String) : Option Json.Value → List (String × Json.Value)
  | none => []
  | some value => [(name, value)]

/-- The text that asks for details to be changed, with the names in their order. -/
def updateBody (changes : FileUpdate) : String :=
  let facts (map : TextMap) : Json.Value :=
    .record (map.entries.map fun entry => (entry.1, .text entry.2))
  (Json.Value.record (entryOf "customCoordinates" (changes.customCoordinates.map .text)
    ++ entryOf "customMetadata" (changes.customMetadata.map facts)
    ++ entryOf "tags" (changes.tags.map Json.texts))).compact

/-- Changing details of a file. -/
def updateInquiry (config : StorageConfig) (fileId : String) (changes : FileUpdate) :
    Inquiry StoredFile where
  started := .info .storage "Updating file details"
    [("file_id", .text fileId), ("updates", .text (Text.quotedList changes.fieldNames))]
  request := fileRequest config .patch fileId ["details"] (.json (updateBody changes))
  subject := some fileId
  context := "Failed to update file"
  failedText := "Failed to update file details"
  failedFields := [("file_id", .text fileId)]
  accepts := Http.isSuccess
  result := readBody readFile?
  finished := fun _ =>
    .info .storage "File details updated successfully" [("file_id", .text fileId)]

/-- Asks the provider. -/
def ask {α : Type} (remote : Remote) (inquiry : Inquiry α) (state : State) : Ran State α :=
  let report := inquiry.run remote.provider state.sent
  let outcome : Outcome α := match report.result with
    | .ok result => .done result
    | .error fault => .failed fault
  ⟨outcome, report.events, { state with sent := report.sent }⟩

/-- Issues a credential. -/
def issue (remote : Remote) (state : State) : Ran State UploadCredential :=
  let random := state.random.head?.getD noRandom
  ⟨.done (uploadCredential remote.config.privateKey remote.now random),
    [.info .storage "Generating authentication parameters" [],
      .info .storage "Generated authentication parameters" []],
    { state with random := state.random.drop 1 }⟩

/-- The storage that asks the provider. -/
def storage (remote : Remote) : Storage State
  | .credential, state => remote.issue state
  | .upload content, state =>
    if isTooLarge remote.config content then
      ⟨.failed (tooLarge remote.config content), [tooLargeEvent remote.config content], state⟩
    else remote.ask (uploadInquiry remote.config content) state
  | .details fileId, state => remote.ask (detailsInquiry remote.config fileId) state
  | .list query, state => remote.ask (listInquiry remote.config query) state
  | .delete fileId, state => remote.ask (deleteInquiry remote.config fileId) state
  | .deleteAll fileIds, state =>
    if isTooMany remote.config fileIds then
      ⟨.failed (tooMany remote.config), [tooManyEvent remote.config fileIds], state⟩
    else remote.ask (deleteAllInquiry remote.config fileIds) state
  | .update fileId changes, state => remote.ask (updateInquiry remote.config fileId changes) state

end Remote

end MediaGateway.Storage
