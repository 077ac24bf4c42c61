import MediaGateway.Api.Messages

/-!
# The seven calls

Each call of the service has a short name, a path, and a type of request and of
response.
-/

namespace MediaGateway.Api

open Protobuf

/-- The calls of the service. -/
inductive Rpc where
  /-- Issue a credential to upload with. -/
  | getUploadAuth
  /-- Store a file. -/
  | uploadFile
  /-- Describe one file. -/
  | getFileDetails
  /-- List a page of files. -/
  | getFiles
  /-- Change details of a file. -/
  | updateFileDetails
  /-- Delete one file. -/
  | deleteFile
  /-- Delete several files. -/
  | deleteMultipleFiles
  deriving DecidableEq, Repr

namespace Rpc

/-- Every call, in the order in which the service declares them. -/
def all : List Rpc :=
  [.getUploadAuth, .uploadFile, .getFileDetails, .getFiles, .updateFileDetails, .deleteFile,
    .deleteMultipleFiles]

/-- The short name of a call. -/
def name : Rpc → String
  | getUploadAuth => "GetUploadAuth"
  | uploadFile => "UploadFile"
  | getFileDetails => "GetFileDetails"
  | getFiles => "GetFiles"
  | updateFileDetails => "UpdateFileDetails"
  | deleteFile => "DeleteFile"
  | deleteMultipleFiles => "DeleteMultipleFiles"

/-- The call with a short name. -/
def ofName? (name : String) : Option Rpc := all.find? fun rpc => rpc.name = name

/-- The name of the service that declares the calls. -/
def serviceName : String := "media.v1.MediaService"

/-- The path under which a call is reached. -/
def path (rpc : Rpc) : String := "/" ++ serviceName ++ "/" ++ rpc.name

/-- The call that a path reaches. -/
def ofPath? (path : String) : Option Rpc := all.find? fun rpc => rpc.path = path

/-- The type of a call's request. -/
abbrev Request : Rpc → Type
  | getUploadAuth => GetUploadAuthRequest
  | uploadFile => UploadFileRequest
  | getFileDetails => GetFileDetailsRequest
  | getFiles => GetFilesRequest
  | updateFileDetails => UpdateFileDetailsRequest
  | deleteFile => DeleteFileRequest
  | deleteMultipleFiles => DeleteMultipleFilesRequest

/-- The type of a call's response. -/
abbrev Response : Rpc → Type
  | getUploadAuth => GetUploadAuthResponse
  | uploadFile => UploadFileResponse
  | getFileDetails => GetFileDetailsResponse
  | getFiles => GetFilesResponse
  | updateFileDetails => UpdateFileDetailsResponse
  | deleteFile => DeleteFileResponse
  | deleteMultipleFiles => DeleteMultipleFilesResponse

instance (rpc : Rpc) : Message rpc.Request :=
  match rpc with
  | getUploadAuth => inferInstanceAs (Message GetUploadAuthRequest)
  | uploadFile => inferInstanceAs (Message UploadFileRequest)
  | getFileDetails => inferInstanceAs (Message GetFileDetailsRequest)
  | getFiles => inferInstanceAs (Message GetFilesRequest)
  | updateFileDetails => inferInstanceAs (Message UpdateFileDetailsRequest)
  | deleteFile => inferInstanceAs (Message DeleteFileRequest)
  | deleteMultipleFiles => inferInstanceAs (Message DeleteMultipleFilesRequest)

instance (rpc : Rpc) : Message rpc.Response :=
  match rpc with
  | getUploadAuth => inferInstanceAs (Message GetUploadAuthResponse)
  | uploadFile => inferInstanceAs (Message UploadFileResponse)
  | getFileDetails => inferInstanceAs (Message GetFileDetailsResponse)
  | getFiles => inferInstanceAs (Message GetFilesResponse)
  | updateFileDetails => inferInstanceAs (Message UpdateFileDetailsResponse)
  | deleteFile => inferInstanceAs (Message DeleteFileResponse)
  | deleteMultipleFiles => inferInstanceAs (Message DeleteMultipleFilesResponse)

end Rpc

/-- A message type among those of the service. -/
structure MessageType where
  /-- The type of its values. -/
  Carrier : Type
  /-- Its fields. -/
  message : Message Carrier

/-- The message types of the service, in the order in which it declares them. -/
def messageTypes : List MessageType := [
  ⟨FileDetails, inferInstance⟩,
  ⟨GetUploadAuthRequest, inferInstance⟩,
  ⟨GetUploadAuthResponse, inferInstance⟩,
  ⟨UploadFileRequest, inferInstance⟩,
  ⟨UploadFileResponse, inferInstance⟩,
  ⟨GetFileDetailsRequest, inferInstance⟩,
  ⟨GetFileDetailsResponse, inferInstance⟩,
  ⟨GetFilesRequest, inferInstance⟩,
  ⟨GetFilesResponse, inferInstance⟩,
  ⟨UpdateFileDetailsRequest, inferInstance⟩,
  ⟨UpdateFileDetailsResponse, inferInstance⟩,
  ⟨DeleteFileRequest, inferInstance⟩,
  ⟨DeleteFileResponse, inferInstance⟩,
  ⟨DeleteMultipleFilesRequest, inferInstance⟩,
  ⟨DeleteResult, inferInstance⟩,
  ⟨DeleteMultipleFilesResponse, inferInstance⟩]

namespace MessageType

/-- The message type with a name. -/
def named? (name : String) : Option MessageType :=
  messageTypes.find? fun type => type.message.name = name

end MessageType

end MediaGateway.Api
