import MediaGateway.Api.Messages
import MediaGateway.Files

/-!
# Between messages and records

A request cannot say that a text, a list or a map is absent; an empty one stands
for that. Records go into responses field by field.
-/

namespace MediaGateway.Api

/-- A text, absent when empty. -/
def presentText (text : String) : Option String := if text = "" then none else some text

/-- A list, absent when empty. -/
def presentList (texts : List String) : Option (List String) :=
  if texts = [] then none else some texts

/-- A map, absent when empty. -/
def presentMap (map : TextMap) : Option TextMap := if map = TextMap.empty then none else some map

/-- The description of a stored file. -/
def FileDetails.ofFile (file : StoredFile) : FileDetails where
  fileId := file.fileId
  name := file.name
  url := file.url
  thumbnailUrl := file.thumbnailUrl
  size := file.size
  fileType := file.fileType
  tags := file.tags
  folderPath := file.folderPath
  createdAt := file.createdAt
  updatedAt := file.updatedAt
  width := file.width
  height := file.height
  customMetadata := file.customMetadata

/-- The result of a deletion. -/
def DeleteResult.ofOutcome (outcome : DeleteOutcome) : DeleteResult :=
  ⟨outcome.fileId, outcome.success, outcome.errorMessage⟩

/-- The file that a request asks to be stored. -/
def UploadFileRequest.toUpload (request : UploadFileRequest) : Upload where
  content := request.fileData
  filename := request.filename
  folder := presentText request.folder
  tags := presentList request.tags
  useUniqueFilename := request.useUniqueFilename
  customCoordinates := presentText request.customCoordinates

/-- The query of a request; its page is taken as it is. -/
def GetFilesRequest.toQuery (request : GetFilesRequest) : ListQuery where
  skip := request.skip
  limit := request.limit
  searchQuery := presentText request.searchQuery
  tags := presentList request.tags
  fileType := presentText request.fileType
  sort := presentText request.sort
  path := presentText request.path

/-- The changes that a request asks for. -/
def UpdateFileDetailsRequest.toUpdate (request : UpdateFileDetailsRequest) : FileUpdate where
  tags := presentList request.tags
  customCoordinates := presentText request.customCoordinates
  customMetadata := presentMap request.customMetadata

end MediaGateway.Api
