import MediaGateway.Protobuf.Message

/-!
# Messages of the media service

The requests and responses of the seven calls, and the two records nested in
them. Each type is followed by its fields on the wire.
-/

namespace MediaGateway.Api

open Protobuf

/-- A stored file as the service describes it. -/
structure FileDetails where
  /-- Identifier of the file. -/
  fileId : String
  /-- Name of the file. -/
  name : String
  /-- Address of the file. -/
  url : String
  /-- Address of a small picture of it. -/
  thumbnailUrl : String
  /-- Size in octets. -/
  size : Int64
  /-- Kind of file. -/
  fileType : String
  /-- Tags. -/
  tags : List String
  /-- Folder that holds the file. -/
  folderPath : String
  /-- When it was stored. -/
  createdAt : String
  /-- When it was last changed. -/
  updatedAt : String
  /-- Width in points. -/
  width : Int32
  /-- Height in points. -/
  height : Int32
  /-- Further facts by name. -/
  customMetadata : TextMap
  deriving DecidableEq

instance : Message FileDetails where
  name := "FileDetails"
  blank := ⟨"", "", "", "", 0, "", [], "", "", "", 0, 0, TextMap.empty⟩
  fields := [
    ⟨"file_id", 1, _, .text, (·.fileId), fun m v => { m with fileId := v }⟩,
    ⟨"name", 2, _, .text, (·.name), fun m v => { m with name := v }⟩,
    ⟨"url", 3, _, .text, (·.url), fun m v => { m with url := v }⟩,
    ⟨"thumbnail_url", 4, _, .text, (·.thumbnailUrl), fun m v => { m with thumbnailUrl := v }⟩,
    ⟨"size", 5, _, .int64, (·.size), fun m v => { m with size := v }⟩,
    ⟨"file_type", 6, _, .text, (·.fileType), fun m v => { m with fileType := v }⟩,
    ⟨"tags", 7, _, .texts, (·.tags), fun m v => { m with tags := v }⟩,
    ⟨"folder_path", 8, _, .text, (·.folderPath), fun m v => { m with folderPath := v }⟩,
    ⟨"created_at", 9, _, .text, (·.createdAt), fun m v => { m with createdAt := v }⟩,
    ⟨"updated_at", 10, _, .text, (·.updatedAt), fun m v => { m with updatedAt := v }⟩,
    ⟨"width", 11, _, .int32, (·.width), fun m v => { m with width := v }⟩,
    ⟨"height", 12, _, .int32, (·.height), fun m v => { m with height := v }⟩,
    ⟨"custom_metadata", 13, _, .table, (·.customMetadata),
      fun m v => { m with customMetadata := v }⟩]

/-- Asks for a credential to upload with. -/
structure GetUploadAuthRequest where
  deriving DecidableEq

instance : Message GetUploadAuthRequest where
  name := "GetUploadAuthRequest"
  blank := ⟨⟩
  fields := []

/-- A credential to upload with. -/
structure GetUploadAuthResponse where
  /-- Token that is signed. -/
  token : String
  /-- Second at which it lapses. -/
  expire : Int64
  /-- Signature of token and lapse. -/
  signature : String
  /-- Public key of the account. -/
  publicKey : String
  /-- Whether the call succeeded. -/
  success : Bool
  /-- Why it did not succeed, else empty. -/
  errorMessage : String
  deriving DecidableEq

instance : Message GetUploadAuthResponse where
  name := "GetUploadAuthResponse"
  blank := ⟨"", 0, "", "", false, ""⟩
  fields := [
    ⟨"token", 1, _, .text, (·.token), fun m v => { m with token := v }⟩,
    ⟨"expire", 2, _, .int64, (·.expire), fun m v => { m with expire := v }⟩,
    ⟨"signature", 3, _, .text, (·.signature), fun m v => { m with signature := v }⟩,
    ⟨"public_key", 4, _, .text, (·.publicKey), fun m v => { m with publicKey := v }⟩,
    ⟨"success", 5, _, .flag, (·.success), fun m v => { m with success := v }⟩,
    ⟨"error_message", 6, _, .text, (·.errorMessage), fun m v => { m with errorMessage := v }⟩]

/-- Asks for a file to be stored. -/
structure UploadFileRequest where
  /-- Content of the file. -/
  fileData : Bytes
  /-- Name to store under. -/
  filename : String
  /-- Folder to store in. -/
  folder : String
  /-- Tags. -/
  tags : List String
  /-- Whether the name is made unique. -/
  useUniqueFilename : Bool
  /-- Area of interest. -/
  customCoordinates : String
  deriving DecidableEq

instance : Message UploadFileRequest where
  name := "UploadFileRequest"
  blank := ⟨[], "", "", [], false, ""⟩
  fields := [
    ⟨"file_data", 1, _, .octets, (·.fileData), fun m v => { m with fileData := v }⟩,
    ⟨"filename", 2, _, .text, (·.filename), fun m v => { m with filename := v }⟩,
    ⟨"folder", 3, _, .text, (·.folder), fun m v => { m with folder := v }⟩,
    ⟨"tags", 4, _, .texts, (·.tags), fun m v => { m with tags := v }⟩,
    ⟨"use_unique_filename", 5, _, .flag, (·.useUniqueFilename),
      fun m v => { m with useUniqueFilename := v }⟩,
    ⟨"custom_coordinates", 6, _, .text, (·.customCoordinates),
      fun m v => { m with customCoordinates := v }⟩]

/-- The file as it was stored. -/
structure UploadFileResponse where
  /-- The file. -/
  file : Option FileDetails
  /-- Whether the call succeeded. -/
  success : Bool
  /-- Why it did not succeed, else empty. -/
  errorMessage : String
  deriving DecidableEq

instance : Message UploadFileResponse where
  name := "UploadFileResponse"
  blank := ⟨none, false, ""⟩
  fields := [
    ⟨"file", 1, _, .nested, (·.file), fun m v => { m with file := v }⟩,
    ⟨"success", 2, _, .flag, (·.success), fun m v => { m with success := v }⟩,
    ⟨"error_message", 3, _, .text, (·.errorMessage), fun m v => { m with errorMessage := v }⟩]

/-- Asks for one file. -/
structure GetFileDetailsRequest where
  /-- Identifier of the file. -/
  fileId : String
  deriving DecidableEq

instance : Message GetFileDetailsRequest where
  name := "GetFileDetailsRequest"
  blank := ⟨""⟩
  fields := [
    ⟨"file_id", 1, _, .text, (·.fileId), fun m v => { m with fileId := v }⟩]

/-- The file that was asked for. -/
structure GetFileDetailsResponse where
  /-- The file. -/
  file : Option FileDetails
  /-- Whether the call succeeded. -/
  success : Bool
  /-- Why it did not succeed, else empty. -/
  errorMessage : String
  deriving DecidableEq

instance : Message GetFileDetailsResponse where
  name := "GetFileDetailsResponse"
  blank := ⟨none, false, ""⟩
  fields := [
    ⟨"file", 1, _, .nested, (·.file), fun m v => { m with file := v }⟩,
    ⟨"success", 2, _, .flag, (·.success), fun m v => { m with success := v }⟩,
    ⟨"error_message", 3, _, .text, (·.errorMessage), fun m v => { m with errorMessage := v }⟩]

/-- Asks for a page of files. -/
structure GetFilesRequest where
  /-- Files to leave out at the front. -/
  skip : Int32
  /-- Most files to return. -/
  limit : Int32
  /-- Search expression. -/
  searchQuery : String
  /-- Tags. -/
  tags : List String
  /-- Kind of file. -/
  fileType : String
  /-- Order of the files. -/
  sort : String
  /-- Folder to look in. -/
  path : String
  deriving DecidableEq

instance : Message GetFilesRequest where
  name := "GetFilesRequest"
  blank := ⟨0, 0, "", [], "", "", ""⟩
  fields := [
    ⟨"skip", 1, _, .int32, (·.skip), fun m v => { m with skip := v }⟩,
    ⟨"limit", 2, _, .int32, (·.limit), fun m v => { m with limit := v }⟩,
    ⟨"search_query", 3, _, .text, (·.searchQuery), fun m v => { m with searchQuery := v }⟩,
    ⟨"tags", 4, _, .texts, (·.tags), fun m v => { m with tags := v }⟩,
    ⟨"file_type", 5, _, .text, (·.fileType), fun m v => { m with fileType := v }⟩,
    ⟨"sort", 6, _, .text, (·.sort), fun m v => { m with sort := v }⟩,
    ⟨"path", 7, _, .text, (·.path), fun m v => { m with path := v }⟩]

/-- A page of files and how many there are in all. -/
structure GetFilesResponse where
  /-- The files. -/
  files : List FileDetails
  /-- Whether the call succeeded. -/
  success : Bool
  /-- Why it did not succeed, else empty. -/
  errorMessage : String
  /-- Number of files that match. -/
  totalCount : Int32
  deriving DecidableEq

instance : Message GetFilesResponse where
  name := "GetFilesResponse"
  blank := ⟨[], false, "", 0⟩
  fields := [
    ⟨"files", 1, _, .repeated, (·.files), fun m v => { m with files := v }⟩,
    ⟨"success", 2, _, .flag, (·.success), fun m v => { m with success := v }⟩,
    ⟨"error_message", 3, _, .text, (·.errorMessage), fun m v => { m with errorMessage := v }⟩,
    ⟨"total_count", 4, _, .int32, (·.totalCount), fun m v => { m with totalCount := v }⟩]

/-- Asks for some details of a file to be changed. -/
structure UpdateFileDetailsRequest where
  /-- Identifier of the file. -/
  fileId : String
  /-- Tags. -/
  tags : List String
  /-- Area of interest. -/
  customCoordinates : String
  /-- Further facts by name. -/
  customMetadata : TextMap
  deriving DecidableEq

instance : Message UpdateFileDetailsRequest where
  name := "UpdateFileDetailsRequest"
  blank := ⟨"", [], "", TextMap.empty⟩
  fields := [
    ⟨"file_id", 1, _, .text, (·.fileId), fun m v => { m with fileId := v }⟩,
    ⟨"tags", 2, _, .texts, (·.tags), fun m v => { m with tags := v }⟩,
    ⟨"custom_coordinates", 3, _, .text, (·.customCoordinates),
      fun m v => { m with customCoordinates := v }⟩,
    ⟨"custom_metadata", 4, _, .table, (·.customMetadata),
      fun m v => { m with customMetadata := v }⟩]

/-- The file after the change. -/
structure UpdateFileDetailsResponse where
  /-- The file. -/
  file : Option FileDetails
  /-- Whether the call succeeded. -/
  success : Bool
  /-- Why it did not succeed, else empty. -/
  errorMessage : String
  deriving DecidableEq

instance : Message UpdateFileDetailsResponse where
  name := "UpdateFileDetailsResponse"
  blank := ⟨none, false, ""⟩
  fields := [
    ⟨"file", 1, _, .nested, (·.file), fun m v => { m with file := v }⟩,
    ⟨"success", 2, _, .flag, (·.success), fun m v => { m with success := v }⟩,
    ⟨"error_message", 3, _, .text, (·.errorMessage), fun m v => { m with errorMessage := v }⟩]

/-- Asks for one file to be deleted. -/
structure DeleteFileRequest where
  /-- Identifier of the file. -/
  fileId : String
  deriving DecidableEq

instance : Message DeleteFileRequest where
  name := "DeleteFileRequest"
  blank := ⟨""⟩
  fields := [
    ⟨"file_id", 1, _, .text, (·.fileId), fun m v => { m with fileId := v }⟩]

/-- Whether the file was deleted. -/
structure DeleteFileResponse where
  /-- Whether the call succeeded. -/
  success : Bool
  /-- Why it did not succeed, else empty. -/
  errorMessage : String
  deriving DecidableEq

instance : Message DeleteFileResponse where
  name := "DeleteFileResponse"
  blank := ⟨false, ""⟩
  fields := [
    ⟨"success", 1, _, .flag, (·.success), fun m v => { m with success := v }⟩,
    ⟨"error_message", 2, _, .text, (·.errorMessage), fun m v => { m with errorMessage := v }⟩]

/-- Asks for several files to be deleted. -/
structure DeleteMultipleFilesRequest where
  /-- Identifiers of the files. -/
  fileIds : List String
  deriving DecidableEq

instance : Message DeleteMultipleFilesRequest where
  name := "DeleteMultipleFilesRequest"
  blank := ⟨[]⟩
  fields := [
    ⟨"file_ids", 1, _, .texts, (·.fileIds), fun m v => { m with fileIds := v }⟩]

/-- What became of one of several files. -/
structure DeleteResult where
  /-- Identifier of the file. -/
  fileId : String
  /-- Whether the call succeeded. -/
  success : Bool
  /-- Why it did not succeed, else empty. -/
  errorMessage : String
  deriving DecidableEq

instance : Message DeleteResult where
  name := "DeleteResult"
  blank := ⟨"", false, ""⟩
  fields := [
    ⟨"file_id", 1, _, .text, (·.fileId), fun m v => { m with fileId := v }⟩,
    ⟨"success", 2, _, .flag, (·.success), fun m v => { m with success := v }⟩,
    ⟨"error_message", 3, _, .text, (·.errorMessage), fun m v => { m with errorMessage := v }⟩]

/-- What became of each of the files. -/
structure DeleteMultipleFilesResponse where
  /-- One result for each file asked for. -/
  results : List DeleteResult
  /-- Whether every file was deleted. -/
  allSuccess : Bool
  /-- Why it did not succeed, else empty. -/
  errorMessage : String
  deriving DecidableEq

instance : Message DeleteMultipleFilesResponse where
  name := "DeleteMultipleFilesResponse"
  blank := ⟨[], false, ""⟩
  fields := [
    ⟨"results", 1, _, .repeated, (·.results), fun m v => { m with results := v }⟩,
    ⟨"all_success", 2, _, .flag, (·.allSuccess), fun m v => { m with allSuccess := v }⟩,
    ⟨"error_message", 3, _, .text, (·.errorMessage), fun m v => { m with errorMessage := v }⟩]

end MediaGateway.Api
