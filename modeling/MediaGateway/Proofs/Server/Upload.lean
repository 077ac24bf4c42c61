import MediaGateway.Proofs.Api.RoundTrip
import MediaGateway.Proofs.Grpc.Frame
import MediaGateway.Proofs.Service.Sending
import MediaGateway.Proofs.Settings
import MediaGateway.Server.Router

/-!
# Uploads over the wire

Two limits are set on an upload: one on the message that it comes in, found out by
the reader of frames, and one on the file, found out by the storage. A file that the
storage takes comes in a message that the reader takes, as long as the other fields
keep to the room that is left for them.
-/

namespace MediaGateway

open Protobuf (Message octetBound varintSize)

namespace Api.UploadFileRequest

/-- An upload without its file. -/
def withoutFile (request : UploadFileRequest) : UploadFileRequest := { request with fileData := [] }

/-- The octets of an upload are those of its file and those of the other fields. -/
theorem encodedLength_eq (request : UploadFileRequest) :
    Message.encodedLength request =
      Protobuf.Shape.octets.size 1 request.fileData +
        Message.encodedLength request.withoutFile := by
  have hz : Protobuf.Shape.octets.size 1 [] = 0 := rfl
  simp only [Message.encodedLength, Message.fields, withoutFile, List.map_cons, List.map_nil,
    Protobuf.Shape.total, List.foldr_cons, List.foldr_nil, hz, Nat.zero_add]

/-- A file takes eleven octets at most beside its own. -/
theorem fileSize_le {content : Bytes} (held : content.length < octetBound) :
    Protobuf.Shape.octets.size 1 content ≤ content.length + 11 := by
  by_cases hc : content = []
  · rw [hc]
    exact Nat.zero_le _
  · have hk : varintSize 10 = 1 := rfl
    have hl := Protobuf.writeVarint_length_le held
    rw [← Protobuf.varintSize_eq held] at hl
    simp only [Protobuf.Shape.octets, if_neg hc, Protobuf.Shape.delimitedSize, hk]
    omega

/-- A file is no longer than the upload that holds it. -/
theorem fileData_le (request : UploadFileRequest) :
    request.fileData.length ≤ Message.encodedLength request := by
  rw [encodedLength_eq]
  by_cases hc : request.fileData = []
  · rw [hc]
    exact Nat.zero_le _
  · simp only [Protobuf.Shape.octets, if_neg hc, Protobuf.Shape.delimitedSize]
    omega

/-- Uploads are among the messages of the service. -/
theorem mem_messageTypes : (⟨UploadFileRequest, inferInstance⟩ : MessageType) ∈ messageTypes := by
  simp only [messageTypes, List.mem_cons, true_or, or_true]

/-- An upload that is held in memory takes as many octets as it says, and reads back from them. -/
theorem survives (request : UploadFileRequest)
    (held : Message.encodedLength request < octetBound) :
    (Message.encode request).length = Message.encodedLength request ∧
      Message.decode (Message.encode request) = .ok request := by
  obtain ⟨hl, hd⟩ := (message_survives mem_messageTypes Protobuf.byKey_complete).1 request held
  exact ⟨hl.symm, hd⟩

end Api.UploadFileRequest

namespace Server

open Api (Rpc UploadFileRequest)
open Grpc (Reply Status)

/-- The octets that are left for the fields of an upload beside its file. -/
def room : Nat := Settings.headroomMb * Upload.mebibyte - 11

/-- An upload is not too long when its file is not too large and the other fields keep to their
room. -/
theorem encodedLength_le_of_fits {settings : Settings} {request : UploadFileRequest}
    (held : Message.encodedLength request < octetBound)
    (fits : request.fileData.length ≤ settings.maxFileSizeMb.toNat * Upload.mebibyte)
    (roomy : Message.encodedLength request.withoutFile ≤ room) :
    Message.encodedLength request ≤ settings.maxMessageBytes := by
  have hw := Settings.largestWord_eq
  have hb : octetBound = 18446744073709551616 := rfl
  have hr : room + 11 = Settings.headroomMb * Upload.mebibyte := rfl
  have hf := Nat.lt_of_le_of_lt request.fileData_le held
  have hs := UploadFileRequest.fileSize_le hf
  have he := request.encodedLength_eq
  refine Settings.le_maxMessageBytes (by omega) ?_
  rw [Nat.add_mul]
  omega

/-- An upload whose file the storage would take is read from its frame, when the other fields keep
to their room. -/
theorem readRequest_of_not_tooLarge {settings : Settings} {request : UploadFileRequest}
    (framed : Message.encodedLength request < Nat.pow 2 32)
    (taken : Storage.Remote.isTooLarge (.ofSettings settings) request.toUpload = false)
    (roomy : Message.encodedLength request.withoutFile ≤ room) :
    Grpc.readRequest UploadFileRequest settings.maxMessageBytes
      (Grpc.frame (Message.encode request)) = .ok request := by
  have hs : Nat.pow 2 32 < octetBound := by decide
  have hh : Nat.pow 2 32 < Nat.pow 2 53 := by decide
  have held := Nat.lt_trans framed hs
  obtain ⟨hl, hd⟩ := request.survives held
  have hf : request.toUpload.size ≤ Nat.pow 2 53 :=
    Nat.le_of_lt (Nat.lt_trans (Nat.lt_of_le_of_lt request.fileData_le framed) hh)
  have hn := mt (Storage.Remote.isTooLarge_iff (.ofSettings settings) hf).mpr
    (Bool.eq_false_iff.mp taken)
  have hm := encodedLength_le_of_fits held (Nat.le_of_not_lt hn) roomy
  rw [← hl] at framed hm
  exact Grpc.readRequest_frame framed hm hd

/-- Whatever the two limits are set to: the message of an upload is not too long when its file is
not too large and the other fields leave eleven octets of their sixteen mebibytes. So an upload
whose file the storage would take is read from its frame. The longest message is found without
wrapping, is below neither of the settings that it follows from unless it is the largest word, and
does not get shorter when one of them gets larger. -/
theorem accepted_upload_fits :
    (∀ (settings : Settings) (request : UploadFileRequest),
      Message.encodedLength request < octetBound →
        request.fileData.length ≤ settings.maxFileSizeMb.toNat * Upload.mebibyte →
          Message.encodedLength { request with fileData := [] } ≤ 16 * Upload.mebibyte - 11 →
            Message.encodedLength request ≤ settings.maxMessageBytes ∧
              (Message.encode request).length = Message.encodedLength request) ∧
    (∀ (settings : Settings) (request : UploadFileRequest),
      Message.encodedLength request < Nat.pow 2 32 →
        Storage.Remote.isTooLarge (.ofSettings settings) request.toUpload = false →
          Message.encodedLength { request with fileData := [] } ≤ 16 * Upload.mebibyte - 11 →
            Grpc.readRequest UploadFileRequest settings.maxMessageBytes
              (Grpc.frame (Message.encode request)) = .ok request) ∧
    (∀ settings : Settings,
      settings.maxMessageBytes =
          min (max (settings.maxMessageSizeMb.toNat * Upload.mebibyte)
            ((settings.maxFileSizeMb.toNat + 16) * Upload.mebibyte)) (Nat.pow 2 64 - 1) ∧
        (settings.maxMessageBytes < settings.maxMessageSizeMb.toNat * Upload.mebibyte ∨
            settings.maxMessageBytes < (settings.maxFileSizeMb.toNat + 16) * Upload.mebibyte →
          settings.maxMessageBytes = Nat.pow 2 64 - 1)) ∧
    ∀ settings other : Settings, settings.maxFileSizeMb ≤ other.maxFileSizeMb →
      settings.maxMessageSizeMb ≤ other.maxMessageSizeMb →
        settings.maxMessageBytes ≤ other.maxMessageBytes :=
  ⟨fun _ request held fits roomy =>
      ⟨encodedLength_le_of_fits held fits roomy, (request.survives held).1⟩,
    fun _ _ framed taken roomy => readRequest_of_not_tooLarge framed taken roomy,
    fun settings => ⟨settings.maxMessageBytes_eq, settings.maxMessageBytes_floor⟩,
    fun _ _ files messages => Settings.maxMessageBytes_mono files messages⟩

/-- Settings that take files of any size, and set a short message only. -/
def boundless : Settings :=
  { Service.countingSettings true with
    maxFileSizeMb := 18446744073709551615
    maxMessageSizeMb := 1 }

/-- A short upload. -/
def note : UploadFileRequest := ⟨[1, 2, 3], "note", "", ["a"], true, ""⟩

/-- With the largest ceiling there is, the longest message is the largest word, and uploads are
read. -/
theorem boundless_takes_note :
    Message.encodedLength note ≤ boundless.maxMessageBytes ∧
      boundless.maxMessageBytes = Nat.pow 2 64 - 1 ∧
      Grpc.readRequest UploadFileRequest boundless.maxMessageBytes
        (Grpc.frame (Message.encode note)) = .ok note := by
  obtain ⟨hfits, hread, hlimit, _⟩ := accepted_upload_fits
  have hroom : Message.encodedLength { note with fileData := [] } ≤ 16 * Upload.mebibyte - 11 := by
    decide
  have htaken : Storage.Remote.isTooLarge (.ofSettings boundless) note.toUpload = false := by
    decide +kernel
  refine ⟨(hfits boundless note (by decide) (by decide) hroom).1, ?_, ?_⟩
  · exact (hlimit boundless).2 (.inr (by decide))
  · exact hread boundless note (by decide) htaken hroom

end Server

end MediaGateway
