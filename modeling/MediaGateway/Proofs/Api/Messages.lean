import MediaGateway.Api.Rpc
import MediaGateway.Proofs.Protobuf.Message

/-!
# The messages of the service read back

Each message type of the service is lawful. A description of a file needs one
level of nesting for its further facts, and a response that holds descriptions
one more.
-/

namespace MediaGateway.Api

open Protobuf Protobuf.Shape

/-- The description of a file reads back. -/
theorem fileDetails_lawful : Message.Lawful FileDetails 1 where
  numbered := by decide
  placed := by repeat' first | constructor | intro _
  apart := by repeat' first | constructor | intro _
  rebuilt := fun _ => rfl
  sound := ⟨text_sound, text_sound, text_sound, text_sound, int64_sound, text_sound, texts_sound,
    text_sound, text_sound, text_sound, int32_sound, int32_sound, table_sound, trivial⟩

/-- What became of one of several files reads back. -/
theorem deleteResult_lawful : Message.Lawful DeleteResult 0 where
  numbered := by decide
  placed := by repeat' first | constructor | intro _
  apart := by repeat' first | constructor | intro _
  rebuilt := fun _ => rfl
  sound := ⟨text_sound, flag_sound, text_sound, trivial⟩

/-- A request for a credential reads back. -/
theorem getUploadAuthRequest_lawful : Message.Lawful GetUploadAuthRequest 0 where
  numbered := by decide
  placed := trivial
  apart := trivial
  rebuilt := fun _ => rfl
  sound := trivial

/-- A credential reads back. -/
theorem getUploadAuthResponse_lawful : Message.Lawful GetUploadAuthResponse 0 where
  numbered := by decide
  placed := by repeat' first | constructor | intro _
  apart := by repeat' first | constructor | intro _
  rebuilt := fun _ => rfl
  sound := ⟨text_sound, int64_sound, text_sound, text_sound, flag_sound, text_sound, trivial⟩

/-- A request to store a file reads back. -/
theorem uploadFileRequest_lawful : Message.Lawful UploadFileRequest 0 where
  numbered := by decide
  placed := by repeat' first | constructor | intro _
  apart := by repeat' first | constructor | intro _
  rebuilt := fun _ => rfl
  sound := ⟨octets_sound, text_sound, text_sound, texts_sound, flag_sound, text_sound, trivial⟩

/-- The answer to a request to store a file reads back. -/
theorem uploadFileResponse_lawful : Message.Lawful UploadFileResponse 2 where
  numbered := by decide
  placed := by repeat' first | constructor | intro _
  apart := by repeat' first | constructor | intro _
  rebuilt := fun _ => rfl
  sound := ⟨nested_sound fileDetails_lawful, flag_sound, text_sound, trivial⟩

/-- A request for a file reads back. -/
theorem getFileDetailsRequest_lawful : Message.Lawful GetFileDetailsRequest 0 where
  numbered := by decide
  placed := by repeat' first | constructor | intro _
  apart := ⟨trivial, trivial⟩
  rebuilt := fun _ => rfl
  sound := ⟨text_sound, trivial⟩

/-- The answer to a request for a file reads back. -/
theorem getFileDetailsResponse_lawful : Message.Lawful GetFileDetailsResponse 2 where
  numbered := by decide
  placed := by repeat' first | constructor | intro _
  apart := by repeat' first | constructor | intro _
  rebuilt := fun _ => rfl
  sound := ⟨nested_sound fileDetails_lawful, flag_sound, text_sound, trivial⟩

/-- A request for a page of files reads back. -/
theorem getFilesRequest_lawful : Message.Lawful GetFilesRequest 0 where
  numbered := by decide
  placed := by repeat' first | constructor | intro _
  apart := by repeat' first | constructor | intro _
  rebuilt := fun _ => rfl
  sound := ⟨int32_sound, int32_sound, text_sound, texts_sound, text_sound, text_sound, text_sound,
    trivial⟩

/-- A page of files reads back. -/
theorem getFilesResponse_lawful : Message.Lawful GetFilesResponse 2 where
  numbered := by decide
  placed := by repeat' first | constructor | intro _
  apart := by repeat' first | constructor | intro _
  rebuilt := fun _ => rfl
  sound := ⟨repeated_sound fileDetails_lawful, flag_sound, text_sound, int32_sound, trivial⟩

/-- A request to change details reads back. -/
theorem updateFileDetailsRequest_lawful : Message.Lawful UpdateFileDetailsRequest 1 where
  numbered := by decide
  placed := by repeat' first | constructor | intro _
  apart := by repeat' first | constructor | intro _
  rebuilt := fun _ => rfl
  sound := ⟨text_sound, texts_sound, text_sound, table_sound, trivial⟩

/-- The answer to a request to change details reads back. -/
theorem updateFileDetailsResponse_lawful : Message.Lawful UpdateFileDetailsResponse 2 where
  numbered := by decide
  placed := by repeat' first | constructor | intro _
  apart := by repeat' first | constructor | intro _
  rebuilt := fun _ => rfl
  sound := ⟨nested_sound fileDetails_lawful, flag_sound, text_sound, trivial⟩

/-- A request to delete a file reads back. -/
theorem deleteFileRequest_lawful : Message.Lawful DeleteFileRequest 0 where
  numbered := by decide
  placed := by repeat' first | constructor | intro _
  apart := ⟨trivial, trivial⟩
  rebuilt := fun _ => rfl
  sound := ⟨text_sound, trivial⟩

/-- The answer to a request to delete a file reads back. -/
theorem deleteFileResponse_lawful : Message.Lawful DeleteFileResponse 0 where
  numbered := by decide
  placed := by repeat' first | constructor | intro _
  apart := by repeat' first | constructor | intro _
  rebuilt := fun _ => rfl
  sound := ⟨flag_sound, text_sound, trivial⟩

/-- A request to delete several files reads back. -/
theorem deleteMultipleFilesRequest_lawful : Message.Lawful DeleteMultipleFilesRequest 0 where
  numbered := by decide
  placed := by repeat' first | constructor | intro _
  apart := ⟨trivial, trivial⟩
  rebuilt := fun _ => rfl
  sound := ⟨texts_sound, trivial⟩

/-- What became of several files reads back. -/
theorem deleteMultipleFilesResponse_lawful : Message.Lawful DeleteMultipleFilesResponse 1 where
  numbered := by decide
  placed := by repeat' first | constructor | intro _
  apart := by repeat' first | constructor | intro _
  rebuilt := fun _ => rfl
  sound := ⟨repeated_sound deleteResult_lawful, flag_sound, text_sound, trivial⟩

/-- The request of every call reads back. -/
theorem request_lawful (rpc : Rpc) : ∃ levels ≤ 1, Message.Lawful rpc.Request levels := by
  cases rpc with
  | getUploadAuth => exact ⟨0, by omega, getUploadAuthRequest_lawful⟩
  | uploadFile => exact ⟨0, by omega, uploadFileRequest_lawful⟩
  | getFileDetails => exact ⟨0, by omega, getFileDetailsRequest_lawful⟩
  | getFiles => exact ⟨0, by omega, getFilesRequest_lawful⟩
  | updateFileDetails => exact ⟨1, by omega, updateFileDetailsRequest_lawful⟩
  | deleteFile => exact ⟨0, by omega, deleteFileRequest_lawful⟩
  | deleteMultipleFiles => exact ⟨0, by omega, deleteMultipleFilesRequest_lawful⟩

/-- The response of every call reads back. -/
theorem response_lawful (rpc : Rpc) : ∃ levels ≤ 2, Message.Lawful rpc.Response levels := by
  cases rpc with
  | getUploadAuth => exact ⟨0, by omega, getUploadAuthResponse_lawful⟩
  | uploadFile => exact ⟨2, by omega, uploadFileResponse_lawful⟩
  | getFileDetails => exact ⟨2, by omega, getFileDetailsResponse_lawful⟩
  | getFiles => exact ⟨2, by omega, getFilesResponse_lawful⟩
  | updateFileDetails => exact ⟨2, by omega, updateFileDetailsResponse_lawful⟩
  | deleteFile => exact ⟨0, by omega, deleteFileResponse_lawful⟩
  | deleteMultipleFiles => exact ⟨1, by omega, deleteMultipleFilesResponse_lawful⟩

end MediaGateway.Api
