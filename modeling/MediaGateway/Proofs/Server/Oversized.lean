import MediaGateway.Proofs.Server.Dispatch
import MediaGateway.Proofs.Server.Upload
import MediaGateway.Proofs.Service.Envelope

/-!
# Files that are too large, over the wire

A file that the storage would not take is refused for its size when its message is
read, and only then. A message that is longer than what is taken is cut off by the
reader of frames, with another status, whatever the file in it is.
-/

namespace MediaGateway

open Protobuf (Message octetBound)

/-- A digit is written in one octet. -/
theorem toString_digit_size {digit : Nat} (h : digit < 10) :
    (toString digit).utf8ByteSize = 1 := by
  have hall : ∀ digit < 10, (toString digit : String).utf8ByteSize = 1 := by decide
  exact hall digit h

/-- A number is written in no more octets than one more than itself. -/
theorem toString_size_le (value : Nat) : (toString value).utf8ByteSize ≤ value + 1 := by
  induction value using Nat.strongRecOn with
  | ind value ih =>
    by_cases hs : value < 10
    · rw [toString_digit_size hs]
      omega
    · have hr : toString value = toString (value / 10) ++ toString (value % 10) :=
        Nat.repr_eq_repr_append_repr (Nat.le_of_not_lt hs)
      have hl := ih (value / 10) (by omega)
      rw [hr, String.utf8ByteSize_append, toString_digit_size (by omega : value % 10 < 10)]
      omega

/-- A number with two decimal places takes no more octets than its hundredths and five. -/
theorem Binary64.toFixed2_size_le (value : Binary64) :
    value.toFixed2.utf8ByteSize ≤ value.hundredths + 5 := by
  have hw := toString_size_le (value.hundredths / 100)
  have ht := toString_digit_size (by omega : value.hundredths % 100 / 10 < 10)
  have hu := toString_digit_size (by omega : value.hundredths % 100 % 10 < 10)
  have hp : ".".utf8ByteSize = 1 := by decide
  simp only [toFixed2, String.utf8ByteSize_append, ht, hu, hp]
  omega

/-- A file has no more hundredths of a mebibyte than a hundred for each of its octets, and one. -/
theorem Upload.hundredths_le {upload : Upload} (h : upload.size ≤ Nat.pow 2 53) :
    upload.sizeMb.hundredths ≤ upload.size * 100 + 1 := by
  have hs := Upload.sizeMb_units h
  have hr := (Binary64.roundEven_bounds (upload.sizeMb.units * 100) Binary64.unit).2
  have hp : 0 < Binary64.unit := by
    have := Binary64.le_unit
    omega
  rw [Binary64.hundredths]
  generalize Binary64.unit = unit at hs hr hp ⊢
  have hu : upload.sizeMb.units ≤ upload.size * unit := by
    rw [← hs, mebibyte]
    omega
  have hd : upload.sizeMb.units * 100 / unit ≤ upload.size * 100 :=
    calc upload.sizeMb.units * 100 / unit
      _ ≤ upload.size * unit * 100 / unit := Nat.div_le_div_right (Nat.mul_le_mul_right 100 hu)
      _ = upload.size * 100 := by rw [Nat.mul_right_comm, Nat.mul_div_cancel _ hp]
  omega

namespace Server

open Api (Rpc UploadFileRequest)
open Grpc (Code Reply Status)
open Storage (Remote)

/-- The reason for refusing a file that is too large. -/
def sizeReason (settings : Settings) (request : UploadFileRequest) : String :=
  "File size " ++ request.toUpload.sizeMb.toFixed2 ++ "MB exceeds limit of " ++
    toString settings.maxFileSizeMb.toNat ++ "MB"

/-- The status of a call whose file is too large. -/
def sizeStatus (settings : Settings) (request : UploadFileRequest) : Status :=
  Service.faultStatus .uploadFile (Remote.tooLarge (.ofSettings settings) request.toUpload)

/-- The status of a message that is too long. -/
def lengthStatus (settings : Settings) (length : Nat) : Status :=
  .plain .outOfRange ("Error, decoded message length too large: found " ++ toString length ++
    " bytes, the limit is: " ++ toString settings.maxMessageBytes ++ " bytes")

/-- The details of a call whose file is too large are an answer in which nothing is set but the
reason. -/
theorem decode_sizeStatus {settings : Settings} {request : UploadFileRequest}
    (short : request.fileData.length < Nat.pow 2 40)
    (large : settings.maxFileSizeMb.toNat * Upload.mebibyte < request.fileData.length) :
    Message.decode (sizeStatus settings request).details =
      .ok (⟨none, false, sizeReason settings request⟩ : Api.UploadFileResponse) := by
  have hb : Nat.pow 2 40 < Nat.pow 2 53 := by decide
  have h40 : Nat.pow 2 40 = 1099511627776 := rfl
  have ht : Service.textBound = 9223372036854775808 := rfl
  have hh := Upload.hundredths_le (Nat.le_of_lt (Nat.lt_trans short hb) :
    request.toUpload.size ≤ Nat.pow 2 53)
  have hz : request.toUpload.size = request.fileData.length := rfl
  have hf := request.toUpload.sizeMb.toFixed2_size_le
  have hm := toString_size_le settings.maxFileSizeMb.toNat
  have hp : "File size ".utf8ByteSize = 10 ∧ "MB exceeds limit of ".utf8ByteSize = 20 ∧
      "MB".utf8ByteSize = 2 := by decide
  rw [Upload.mebibyte] at large
  refine Service.decode_encode_refusal ?_ .uploadFile
  rw [Remote.tooLarge]
  simp only [String.utf8ByteSize_append, hp, StorageConfig.ofSettings]
  omega

/-- A call whose file is too large ends in the status of that, and nothing is sent. -/
theorem call_of_large {settings : Settings} {remote : Remote}
    (config : remote.config = .ofSettings settings) (took : Nat → Chain.Reading)
    {state : Service.State Remote.State} (reached : Service.Reached state)
    {request : UploadFileRequest} (named : request.filename ≠ "")
    (short : request.fileData.length < Nat.pow 2 40)
    (large : settings.maxFileSizeMb.toNat * Upload.mebibyte < request.fileData.length) :
    let called := Service.call settings remote.storage took .uploadFile request state
    called.ending = .answered (.error (sizeStatus settings request)) ∧
      called.state.storage = state.storage := by
  have hb : Nat.pow 2 40 < Nat.pow 2 53 := by decide
  have hs : request.toUpload.size ≤ Nat.pow 2 53 := Nat.le_of_lt (Nat.lt_trans short hb)
  have hl := (Remote.isTooLarge_iff (.ofSettings settings) hs).mpr large
  have filled : request.fileData ≠ [] := by
    intro he
    rw [he] at large
    exact Nat.not_lt_zero _ large
  have ho : Service.objection? .uploadFile request = none := (if_neg filled).trans (if_neg named)
  have hr : Remote.refusal? remote.config (.upload request.toUpload) =
      some (Remote.tooLarge (.ofSettings settings) request.toUpload) := by
    rw [config]
    exact if_pos hl
  exact Service.call_refused settings took reached (.inr ⟨ho, hr⟩)

/-- A request for an upload that stands in one frame. -/
structure Uploads (wire : WireRequest) (content : Bytes) (request : UploadFileRequest) : Prop where
  /-- It goes to the call for uploads. -/
  path : Rpc.ofPath? wire.path = some .uploadFile
  /-- It is not compressed. -/
  plain : compressed? wire = none
  /-- It holds one frame. -/
  body : wire.body = Grpc.frame content
  /-- The length of the message fits in its frame. -/
  framed : content.length < Nat.pow 2 32
  /-- The message is the upload. -/
  decodes : Message.decode content = .ok request

/-- A file is no longer than the octets of an upload that holds it. -/
theorem fileData_le_encode (request : UploadFileRequest) :
    request.fileData.length ≤ (Message.encode request).length := by
  simp only [Message.encode, Message.encodeOrdered, Message.fields, List.flatMap_cons,
    List.length_append, Protobuf.Shape.octets]
  by_cases hc : request.fileData = []
  · rw [hc]
    exact Nat.zero_le _
  · simp only [if_neg hc, Protobuf.Shape.writeContent_length, Protobuf.writeDelimited,
      List.length_append]
    omega

/-- The file of an upload that stands in one frame has a size that is not rounded. -/
theorem Uploads.fileData_lt {wire : WireRequest} {content : Bytes} {request : UploadFileRequest}
    (uploads : Uploads wire content request) : request.fileData.length < Nat.pow 2 40 := by
  have hm := (Api.messageTypes_sturdy _ UploadFileRequest.mem_messageTypes).measured
  have hd := hm.length_le_of_decode Protobuf.byKey_complete uploads.decodes
  have he := fileData_le_encode request
  have hl := uploads.framed
  have h32 : Nat.pow 2 32 = 4294967296 := rfl
  have h40 : Nat.pow 2 40 = 1099511627776 := rfl
  rw [Message.encode] at he
  omega

/-- Equal replies to failed calls name the same code. -/
theorem code_of_failed {status other : Status} (h : Reply.failed status = Reply.failed other) :
    toString status.code.number = toString other.code.number := by
  have hh := congrArg (fun reply : Reply => reply.headers[2]?) h
  have hp : ("grpc-status", toString status.code.number) =
      ("grpc-status", toString other.code.number) := Option.some.inj hh
  exact (Prod.mk.inj hp).2

/-- A request for an upload is dealt with by the call when its message is not too long. -/
theorem serve_fitting {settings : Settings} {wire : WireRequest} {content : Bytes}
    {request : UploadFileRequest} (uploads : Uploads wire content request)
    (fits : content.length ≤ settings.maxMessageBytes) {σ : Type} (storage : Storage σ)
    (took : Nat → Chain.Reading) (state : Service.State σ) :
    let called := Service.call settings storage took .uploadFile request state
    serve settings storage took wire state =
      ⟨replyOf settings.maxMessageBytes called.ending, called.events, called.state⟩ := by
  have hr := Grpc.readRequest_frame uploads.framed fits uploads.decodes
  rw [← uploads.body] at hr
  exact serve_read uploads.path uploads.plain hr

/-- A request for an upload is answered by the reader of frames when its message is too long. -/
theorem serve_long {settings : Settings} {wire : WireRequest} {content : Bytes}
    {request : UploadFileRequest} (uploads : Uploads wire content request)
    (long : settings.maxMessageBytes < content.length) {σ : Type} (storage : Storage σ)
    (took : Nat → Chain.Reading) (state : Service.State σ) :
    serve settings storage took wire state =
      ⟨.failed (lengthStatus settings content.length), [], state⟩ := by
  have hr : Grpc.readRequest UploadFileRequest settings.maxMessageBytes wire.body =
      .error (lengthStatus settings content.length) := by
    rw [uploads.body]
    exact Grpc.readRequest_long uploads.framed long
  rw [serve, uploads.path]
  simp only [serveCall, uploads.plain]
  rw [hr]

/-- An upload whose file is too large is refused for its size exactly when its message is not too
long: with the code for that, the reason in words, and an answer in its details in which nothing is
set but the reason. A longer message is cut off with another status. Either way nothing is sent. -/
theorem large_upload_refused_iff {settings : Settings} {remote : Remote}
    (config : remote.config = .ofSettings settings) (took : Nat → Chain.Reading)
    {state : Service.State Remote.State} (reached : Service.Reached state) {wire : WireRequest}
    {content : Bytes} {request : UploadFileRequest} (uploads : Uploads wire content request)
    (named : request.filename ≠ "")
    (large : settings.maxFileSizeMb.toNat * Upload.mebibyte < request.fileData.length) :
    ∃ status : Status, status.code = .resourceExhausted ∧
      status.message = "File size " ++ request.toUpload.sizeMb.toFixed2 ++ "MB exceeds limit of " ++
        toString settings.maxFileSizeMb.toNat ++ "MB" ∧
      Message.decode status.details = .ok (⟨none, false, status.message⟩ : Api.UploadFileResponse) ∧
      let served := serve settings remote.storage took wire state
      (served.reply = .failed status ↔ content.length ≤ settings.maxMessageBytes) ∧
        (settings.maxMessageBytes < content.length →
          served.reply = .failed (.plain .outOfRange
            ("Error, decoded message length too large: found " ++ toString content.length ++
              " bytes, the limit is: " ++ toString settings.maxMessageBytes ++ " bytes"))) ∧
        served.state.storage.sent = state.storage.sent := by
  have short := uploads.fileData_lt
  refine ⟨sizeStatus settings request, rfl, rfl, decode_sizeStatus short large, ?_⟩
  intro served
  by_cases hl : content.length ≤ settings.maxMessageBytes
  · obtain ⟨he, hs⟩ := call_of_large config took reached named short large
    have hv := serve_fitting uploads hl remote.storage took state
    have hr : served.reply = .failed (sizeStatus settings request) := by
      rw [show served = _ from hv, he]
      rfl
    refine ⟨iff_of_true hr hl, fun long => absurd hl (Nat.not_le_of_lt long), ?_⟩
    rw [show served = _ from hv, hs]
  · have long := Nat.lt_of_not_le hl
    have hv : served = _ := serve_long uploads long remote.storage took state
    have hn : Reply.failed (lengthStatus settings content.length) ≠
        .failed (sizeStatus settings request) := by
      intro h
      have hc : toString Code.outOfRange.number = toString Code.resourceExhausted.number :=
        code_of_failed h
      exact absurd hc (by decide)
    rw [hv]
    exact ⟨iff_of_false hn hl, fun _ => rfl, rfl⟩

/-- Settings that take files of up to some mebibytes, and set a short message only. -/
def ceiling (megabytes : UInt64) : Settings :=
  { Service.countingSettings true with
    maxFileSizeMb := megabytes
    maxMessageSizeMb := 1 }

/-- A storage that is set up by settings, whose provider keeps silent. -/
def silentStorage (settings : Settings) : Remote := ⟨.ofSettings settings, 0, fun _ => .silent⟩

/-- An upload of a file, and nothing but its name beside it. -/
def plainUpload (file : Bytes) : UploadFileRequest := ⟨file, "a", "", [], false, ""⟩

/-- A request that holds a message for the call for uploads. -/
def uploadOf (content : Bytes) : WireRequest :=
  ⟨"/media.v1.MediaService/UploadFile", none, Grpc.frame content⟩

/-- An upload that can be framed is one when it is sent. -/
theorem uploads_of_framed {request : UploadFileRequest}
    (framed : Message.encodedLength request < Nat.pow 2 32) :
    Uploads (uploadOf (Message.encode request)) (Message.encode request) request := by
  have hb : Nat.pow 2 32 < octetBound := by decide
  have ht : (uploadOf (Message.encode request)).path = (uploadOf []).path := by
    rw [WireRequest.path, WireRequest.path, uploadOf, uploadOf]
  have hp : Rpc.ofPath? (uploadOf (Message.encode request)).path = some .uploadFile := by
    rw [ht]
    decide
  obtain ⟨hl, hd⟩ := request.survives (Nat.lt_trans framed hb)
  exact ⟨hp, rfl, rfl, hl.symm ▸ framed, hd⟩

/-- Where no file is taken, one of a single octet is refused for its size. -/
theorem single_octet_refused :
    ∃ status : Status, status.code = .resourceExhausted ∧
      status.message = "File size 0.00MB exceeds limit of 0MB" ∧
      let served := serve (ceiling 0) (silentStorage (ceiling 0)).storage (fun _ => 7)
        (uploadOf (Message.encode (plainUpload [7]))) (.initial ⟨[], []⟩)
      served.reply = .failed status ∧ served.state.storage.sent = [] := by
  have uploads := uploads_of_framed (by decide : Message.encodedLength (plainUpload [7]) < _)
  obtain ⟨status, hc, hm, _, hr, _, hs⟩ := large_upload_refused_iff
    (rfl : (silentStorage (ceiling 0)).config = _) (fun _ => 7) (.initial []) uploads
    (by decide) (by decide)
  have hl := ((plainUpload [7]).survives (by decide)).1
  have hf : Message.encodedLength (plainUpload [7]) ≤ (ceiling 0).maxMessageBytes := by decide
  exact ⟨status, hc, hm.trans (by decide +kernel), hr.mpr (hl ▸ hf), hs⟩

/-- A file of seventeen mebibytes takes eight octets more with its name. -/
theorem plainUpload_length {file : Bytes} (h : file.length = 17825792) :
    Message.encodedLength (plainUpload file) = 17825800 := by
  have hn : file ≠ [] := by
    rintro rfl
    cases h
  have hw : Message.encodedLength (plainUpload []) = 3 := by decide
  have hs : Protobuf.Shape.octets.size 1 file = 17825797 := by
    have hd : Protobuf.Shape.delimitedSize 1 17825792 = 17825797 := by decide
    simp only [Protobuf.Shape.octets, if_neg hn, h, hd]
  have he : (plainUpload file).withoutFile = plainUpload [] := rfl
  rw [UploadFileRequest.encodedLength_eq, he, hw]
  exact congrArg (· + 3) hs

/-- Where files of one mebibyte are taken, one of seventeen is not refused for its size. -/
theorem seventeen_mebibytes_cut_off :
    ∃ file : Bytes, file = List.replicate 17825792 0 ∧
      let request := plainUpload file
      Uploads (uploadOf (Message.encode request)) (Message.encode request) request ∧
        request.filename ≠ "" ∧
        (ceiling 1).maxFileSizeMb.toNat * Upload.mebibyte < request.fileData.length ∧
        let served := serve (ceiling 1) (silentStorage (ceiling 1)).storage (fun _ => 7)
          (uploadOf (Message.encode request)) (.initial ⟨[], []⟩)
        served.reply = .failed (.plain .outOfRange
            ("Error, decoded message length too large: found 17825800 bytes, " ++
              "the limit is: 17825792 bytes")) ∧
          ∀ status : Status, status.code = .resourceExhausted →
            served.reply ≠ .failed status := by
  refine ⟨_, rfl, ?_⟩
  generalize hf : List.replicate 17825792 (0 : UInt8) = file
  have hl : file.length = 17825792 := by rw [← hf, List.length_replicate]
  have he := plainUpload_length hl
  have framed : Message.encodedLength (plainUpload file) < Nat.pow 2 32 := by
    rw [he]
    decide
  have uploads := uploads_of_framed framed
  have hc : (Message.encode (plainUpload file)).length = 17825800 :=
    ((plainUpload file).survives (Nat.lt_trans framed (by decide))).1.trans he
  have hb : (ceiling 1).maxMessageBytes = 17825792 := by decide
  have hv := serve_long uploads (by rw [hb, hc]; decide) (silentStorage (ceiling 1)).storage
    (fun _ => 7) (.initial ⟨[], []⟩)
  have large : (ceiling 1).maxFileSizeMb.toNat * Upload.mebibyte <
      (plainUpload file).fileData.length := by
    have hs : (plainUpload file).fileData.length = 17825792 := hl
    rw [hs]
    decide
  refine ⟨uploads, (by decide : "a" ≠ ""), large, ?_, fun status exhausted h => ?_⟩
  · rw [hv, lengthStatus, hc, hb]
    rfl
  · rw [hv] at h
    have hn : toString Code.outOfRange.number = toString status.code.number := code_of_failed h
    rw [exhausted] at hn
    exact absurd hn (by decide)

end Server

end MediaGateway
