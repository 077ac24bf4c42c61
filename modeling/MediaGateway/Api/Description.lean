import MediaGateway.Api.Rpc
import MediaGateway.Protobuf.Descriptor

/-!
# The published description

What the service tells clients about its messages and calls. It is written down
on its own, apart from the message types that are served.
-/

namespace MediaGateway.Api.Description

open Protobuf.Descriptor

/-- The package of the service. -/
def package : String := "media.v1"

/-- A field that occurs at most once. -/
def single (name : String) (number : Nat) (type : FieldType) : FieldInfo :=
  ⟨name, number, .optional, type, none, none, jsonName name⟩

/-- A field that occurs any number of times. -/
def many (name : String) (number : Nat) (type : FieldType) : FieldInfo :=
  ⟨name, number, .repeated, type, none, none, jsonName name⟩

/-- A field that holds messages of a declared type. -/
def part (name : String) (number : Nat) (label : Label) (typeName : String) : FieldInfo :=
  ⟨name, number, label, .message, some (fullName package typeName), none, jsonName name⟩

/-- A message without maps. -/
def plain (name : String) (fields : List FieldInfo) : MessageInfo := ⟨name, fields, [], []⟩

/-- A message whose last field is a map from text to text. -/
def withMap (name : String) (fields : List FieldInfo) (mapName : String) (mapNumber : Nat) :
    MessageInfo :=
  let entry := entryName mapName
  ⟨name, fields ++ [part mapName mapNumber .repeated (name ++ "." ++ entry)],
    [⟨entry, [single "key" 1 .string, single "value" 2 .string]⟩], []⟩

/-- The response of the calls that answer with one file. -/
def fileEnvelope (name : String) : MessageInfo :=
  plain name [part "file" 1 .optional "FileDetails", single "success" 2 .bool,
    single "error_message" 3 .string]

/-- The messages, in the order of their declaration. -/
def messages : List MessageInfo := [
  withMap "FileDetails" [single "file_id" 1 .string, single "name" 2 .string,
    single "url" 3 .string, single "thumbnail_url" 4 .string, single "size" 5 .int64,
    single "file_type" 6 .string, many "tags" 7 .string, single "folder_path" 8 .string,
    single "created_at" 9 .string, single "updated_at" 10 .string, single "width" 11 .int32,
    single "height" 12 .int32] "custom_metadata" 13,
  plain "GetUploadAuthRequest" [],
  plain "GetUploadAuthResponse" [single "token" 1 .string, single "expire" 2 .int64,
    single "signature" 3 .string, single "public_key" 4 .string, single "success" 5 .bool,
    single "error_message" 6 .string],
  plain "UploadFileRequest" [single "file_data" 1 .bytes, single "filename" 2 .string,
    single "folder" 3 .string, many "tags" 4 .string, single "use_unique_filename" 5 .bool,
    single "custom_coordinates" 6 .string],
  fileEnvelope "UploadFileResponse",
  plain "GetFileDetailsRequest" [single "file_id" 1 .string],
  fileEnvelope "GetFileDetailsResponse",
  plain "GetFilesRequest" [single "skip" 1 .int32, single "limit" 2 .int32,
    single "search_query" 3 .string, many "tags" 4 .string, single "file_type" 5 .string,
    single "sort" 6 .string, single "path" 7 .string],
  plain "GetFilesResponse" [part "files" 1 .repeated "FileDetails", single "success" 2 .bool,
    single "error_message" 3 .string, single "total_count" 4 .int32],
  withMap "UpdateFileDetailsRequest" [single "file_id" 1 .string, many "tags" 2 .string,
    single "custom_coordinates" 3 .string] "custom_metadata" 4,
  fileEnvelope "UpdateFileDetailsResponse",
  plain "DeleteFileRequest" [single "file_id" 1 .string],
  plain "DeleteFileResponse" [single "success" 1 .bool, single "error_message" 2 .string],
  plain "DeleteMultipleFilesRequest" [many "file_ids" 1 .string],
  plain "DeleteResult" [single "file_id" 1 .string, single "success" 2 .bool,
    single "error_message" 3 .string],
  plain "DeleteMultipleFilesResponse" [part "results" 1 .repeated "DeleteResult",
    single "all_success" 2 .bool, single "error_message" 3 .string]]

/-- A call whose request and response are named after it. -/
def method (name : String) : MethodInfo :=
  ⟨name, fullName package (name ++ "Request"), fullName package (name ++ "Response"), false⟩

/-- The service with its calls. -/
def service : ServiceInfo := ⟨"MediaService", Rpc.all.map fun rpc => method rpc.name⟩

/-- The one file that declares everything. -/
def file : FileInfo := ⟨"media.proto", package, messages, [service], [], "proto3"⟩

/-- The files of the service. -/
def files : List FileInfo := [file]

/-- The description of the message with a name. -/
def message? (name : String) : Option MessageInfo := messages.find? fun info => info.name = name

/-- The description of the message that a full type name refers to. -/
def messageOfType? (typeName : String) : Option MessageInfo :=
  messages.find? fun info => fullName package info.name = typeName

end MediaGateway.Api.Description
