import MediaGateway.Proofs.Api.Published
import MediaGateway.Proofs.Server.Dispatch

/-!
# Calls by the description alone

The description declares a method for each call. Its path reaches the call, what stands in
the frame of a request is read as the declared type of the input, and what stands in the
frame of the reply is written as the declared type of the output. So a client that knows
the description and nothing else can make every call and understand the answer.
-/

namespace MediaGateway

namespace Api

open Protobuf Protobuf.Descriptor

/-- The path of a published method. -/
def methodPath (file : FileInfo) (service : ServiceInfo) (method : MethodInfo) : String :=
  "/" ++ file.package ++ "." ++ service.name ++ "/" ++ method.name

/-- The description tells of the request of every call. -/
theorem request_told (rpc : Rpc) :
    Told Description.files (typeName (Message.name rpc.Request)) rpc.Request := by
  cases rpc with
  | getUploadAuth =>
    exact messageTypes_told ⟨GetUploadAuthRequest, inferInstance⟩ (by simp [messageTypes])
  | uploadFile =>
    exact messageTypes_told ⟨UploadFileRequest, inferInstance⟩ (by simp [messageTypes])
  | getFileDetails =>
    exact messageTypes_told ⟨GetFileDetailsRequest, inferInstance⟩ (by simp [messageTypes])
  | getFiles =>
    exact messageTypes_told ⟨GetFilesRequest, inferInstance⟩ (by simp [messageTypes])
  | updateFileDetails =>
    exact messageTypes_told ⟨UpdateFileDetailsRequest, inferInstance⟩ (by simp [messageTypes])
  | deleteFile =>
    exact messageTypes_told ⟨DeleteFileRequest, inferInstance⟩ (by simp [messageTypes])
  | deleteMultipleFiles =>
    exact messageTypes_told ⟨DeleteMultipleFilesRequest, inferInstance⟩ (by simp [messageTypes])

/-- The description tells of the response of every call. -/
theorem response_told (rpc : Rpc) :
    Told Description.files (typeName (Message.name rpc.Response)) rpc.Response := by
  cases rpc with
  | getUploadAuth =>
    exact messageTypes_told ⟨GetUploadAuthResponse, inferInstance⟩ (by simp [messageTypes])
  | uploadFile =>
    exact messageTypes_told ⟨UploadFileResponse, inferInstance⟩ (by simp [messageTypes])
  | getFileDetails =>
    exact messageTypes_told ⟨GetFileDetailsResponse, inferInstance⟩ (by simp [messageTypes])
  | getFiles =>
    exact messageTypes_told ⟨GetFilesResponse, inferInstance⟩ (by simp [messageTypes])
  | updateFileDetails =>
    exact messageTypes_told ⟨UpdateFileDetailsResponse, inferInstance⟩ (by simp [messageTypes])
  | deleteFile =>
    exact messageTypes_told ⟨DeleteFileResponse, inferInstance⟩ (by simp [messageTypes])
  | deleteMultipleFiles =>
    exact messageTypes_told ⟨DeleteMultipleFilesResponse, inferInstance⟩ (by simp [messageTypes])

/-- The method of a call is published under the path of the call. -/
theorem methodPath_method (rpc : Rpc) :
    methodPath Description.file Description.service (Description.method rpc.name) = rpc.path := by
  cases rpc <;> decide +kernel

/-- The declared types of a method are those of its call. -/
theorem types_of_method (rpc : Rpc) :
    (Description.method rpc.name).inputType = typeName (Message.name rpc.Request) ∧
      (Description.method rpc.name).outputType = typeName (Message.name rpc.Response) := by
  cases rpc <;> decide +kernel

end Api

namespace Server

open Api (Rpc)
open Protobuf (Message octetBound)
open Protobuf.Descriptor (MethodInfo Told decodeAs encodeAs)

/-- What is published of a method under a path is how the requests of a call are dealt with. -/
structure Dispatched (path : String) (method : MethodInfo) (rpc : Rpc) : Prop where
  /-- The path reaches the call. -/
  reached : Rpc.ofPath? path = some rpc
  /-- One request has one response. -/
  single : method.streaming = false
  /-- The declared type of the input is the type of the request. -/
  input : method.inputType = Api.typeName (Message.name rpc.Request)
  /-- The declared type of the output is the type of the response. -/
  output : method.outputType = Api.typeName (Message.name rpc.Response)
  /-- The declared type of the input tells of the requests. -/
  requests : Told Api.Description.files method.inputType rpc.Request
  /-- The declared type of the output tells of the responses. -/
  responses : Told Api.Description.files method.outputType rpc.Response
  /-- Whatever a plain request under the path holds is read as a request of the call; if that fails,
  the failure is the reply, and else the reply is written from the response of the call. -/
  dealt : ∀ {σ : Type} (settings : Settings) (storage : Storage σ) (took : Nat → Chain.Reading)
    (wire : WireRequest) (state : Service.State σ), wire.path = path → compressed? wire = none →
      let served := serve settings storage took wire state
      (∀ status, Grpc.readRequest rpc.Request settings.maxMessageBytes wire.body = .error status →
        served = ⟨.failed status, [], state⟩) ∧
      ∀ message, Grpc.readRequest rpc.Request settings.maxMessageBytes wire.body = .ok message →
        let called := Service.call settings storage took rpc message state
        served = ⟨replyOf settings.maxMessageBytes called.ending, called.events, called.state⟩
  /-- A frame that reads as a record of the declared input comes to the call with the message that
  the record is, and a response that fits in a frame reads as a record of the declared output. -/
  understood : ∀ {σ : Type} (settings : Settings) (storage : Storage σ)
    (took : Nat → Chain.Reading) (wire : WireRequest) (state : Service.State σ) (content : Bytes)
    (record : List (String × Protobuf.Value)), wire.path = path → compressed? wire = none →
      wire.body = Grpc.frame content → content.length ≤ settings.maxMessageBytes →
      content.length < Nat.pow 2 32 →
      decodeAs Api.Description.files method.inputType content = .ok record →
        ∃ message : rpc.Request, Message.view message = record ∧
          let served := serve settings storage took wire state
          let called := Service.call settings storage took rpc message state
          served.events = called.events ∧ served.state = called.state ∧
          ∃ answer, called.ending = .answered answer ∧
            served.reply.Carries settings.maxMessageBytes answer ∧
            ∀ response, answer = .ok response →
              (Message.encode response).length ≤ settings.maxMessageBytes →
              (Message.encode response).length < Nat.pow 2 32 →
                served.reply.body = Grpc.frame (Message.encode response) ∧
                decodeAs Api.Description.files method.outputType (Message.encode response) =
                  .ok (Message.view response)

/-- The reply to a call holds its response in the only frame, if it fits there. -/
theorem body_replyOf {ρ : Type} [Message ρ] {limit : Nat} {response : ρ}
    (fits : (Message.encode response).length ≤ limit)
    (framed : (Message.encode response).length < Nat.pow 2 32) :
    (replyOf limit (.answered (.ok response))).body = Grpc.frame (Message.encode response) := by
  rw [replyOf, Grpc.Reply.succeeded, Grpc.Reply.unsendable?, if_neg (Nat.not_lt_of_le fits),
    if_neg (Nat.not_le_of_lt framed)]
  exact List.append_nil _

/-- The published method of a call tells how its requests are dealt with. -/
theorem dispatched_method (rpc : Rpc) :
    Dispatched rpc.path (Api.Description.method rpc.name) rpc where
  reached := rpc.ofPath?_path
  single := rfl
  input := (Api.types_of_method rpc).1
  output := (Api.types_of_method rpc).2
  requests := (Api.types_of_method rpc).1 ▸ Api.request_told rpc
  responses := (Api.types_of_method rpc).2 ▸ Api.response_told rpc
  dealt settings storage took wire state path plain := by
    have hp : Rpc.ofPath? wire.path = some rpc := path ▸ rpc.ofPath?_path
    refine ⟨fun status read => ?_, fun message read => serve_read hp plain read⟩
    rw [serve, hp]
    simp only [serveCall, plain]
    rw [read]
  understood settings storage took wire state content record path plain body fits framed read := by
    have hp : Rpc.ofPath? wire.path = some rpc := path ▸ rpc.ofPath?_path
    rw [(Api.types_of_method rpc).1] at read
    rw [(Api.types_of_method rpc).2]
    obtain ⟨message, hm, rfl⟩ := (Api.request_told rpc).heard content record read
    have hr := Grpc.readRequest_frame framed fits hm
    rw [← body] at hr
    have hs : serve settings storage took wire state = _ := serve_read hp plain hr
    obtain ⟨answer, ha⟩ := Service.exists_answer settings storage took rpc message state
    refine ⟨message, rfl, ?_⟩
    rw [hs]
    have hc := carries_replyOf settings.maxMessageBytes answer
    rw [← ha] at hc
    refine ⟨rfl, rfl, answer, ha, hc, ?_⟩
    rintro response rfl fits framed
    have hb : Nat.pow 2 32 < octetBound := by decide
    refine ⟨?_, (Api.response_told rpc).read _ Protobuf.byKey_complete response
      (Nat.lt_trans framed hb)⟩
    rw [ha]
    exact body_replyOf fits framed

/-- The published description is true of everything that is served. It declares exactly the message
types of the service, and tells of each of them; every method it declares tells how the requests
under its path are dealt with; and every call is declared. -/
theorem description_true :
    (∀ type ∈ Api.messageTypes, @Told Api.Description.files (Api.typeName type.message.name)
      type.Carrier type.message) ∧
    (∀ file ∈ Api.Description.files,
      file.messages.map (·.name) = Api.messageTypes.map (·.message.name) ∧
      ∀ service ∈ file.services, ∀ method ∈ service.methods,
        ∃ rpc, Dispatched (Api.methodPath file service method) method rpc) ∧
    ∀ rpc : Rpc, ∃ file ∈ Api.Description.files, ∃ service ∈ file.services,
      ∃ method ∈ service.methods, Api.methodPath file service method = rpc.path := by
  refine ⟨Api.messageTypes_told, ?_, ?_⟩
  · intro file inSet
    obtain rfl := List.mem_singleton.mp inSet
    refine ⟨rfl, fun service inFile method inService => ?_⟩
    obtain rfl := List.mem_singleton.mp inFile
    obtain ⟨rpc, -, rfl⟩ := List.mem_map.mp inService
    rw [Api.methodPath_method]
    exact ⟨rpc, dispatched_method rpc⟩
  · intro rpc
    refine ⟨_, List.mem_singleton_self _, _, List.mem_singleton_self _, _,
      List.mem_map_of_mem (a := rpc) ?_, Api.methodPath_method rpc⟩
    cases rpc <;> simp [Rpc.all]

/-- A record of the request for a page of files. -/
def pageRecord : List (String × Protobuf.Value) :=
  [("skip", .integer 0), ("limit", .integer 1), ("search_query", .text ""),
    ("tags", .texts ["", "a"]), ("file_type", .text ""), ("sort", .text ""), ("path", .text "")]

/-- By the description alone, a page with two equal maps in different orders is understood, a
request for a page is written and then read, and a deletion is carried out and its response
understood. -/
theorem deletion_by_description :
    let served := serve (Service.countingSettings true) shredder (fun _ => 7) (deletionOf "a")
      (.initial [])
    decodeAs Api.Description.files (Api.typeName "GetFilesResponse")
        (Message.encodeOrdered Api.turnedOnce Api.twins) = .ok (Message.view Api.twins) ∧
    encodeAs Api.Description.files .byKey (Api.typeName "GetFilesRequest") pageRecord =
      some [16, 1, 34, 0, 34, 1, 97] ∧
    (∃ message : Api.GetFilesRequest, Message.decode [16, 1, 34, 0, 34, 1, 97] = .ok message ∧
      Message.view message = pageRecord) ∧
    served.state.storage = ["a"] ∧
    served.reply.body = Grpc.frame [8, 1] ∧
    decodeAs Api.Description.files (Api.typeName "DeleteFileResponse") [8, 1] =
      .ok [("success", .flag true), ("error_message", .text "")] := by
  intro served
  have hserved : serve (Service.countingSettings true) shredder (fun _ => 7) (deletionOf "a")
      (.initial []) = served := rfl
  clear_value served
  obtain ⟨told, methods, -⟩ := description_true
  have hpage : decodeAs Api.Description.files (Api.typeName "GetFilesResponse")
      (Message.encodeOrdered Api.turnedOnce Api.twins) = .ok (Message.view Api.twins) :=
    (told ⟨Api.GetFilesResponse, inferInstance⟩ (by simp [Api.messageTypes])).read _
      Api.turnedOnce_complete Api.twins (by decide +kernel)
  have hwritten : encodeAs Api.Description.files .byKey (Api.typeName "GetFilesRequest")
      pageRecord = some [16, 1, 34, 0, 34, 1, 97] := by decide +kernel
  have hrequests := told ⟨Api.GetFilesRequest, inferInstance⟩ (by simp [Api.messageTypes])
  have htyped := (hrequests.typed pageRecord).mpr ⟨⟨0, 1, "", ["", "a"], "", "", ""⟩, rfl⟩
  obtain ⟨bytes, hb, hread⟩ := hrequests.taken _ Protobuf.byKey_complete pageRecord htyped
  obtain rfl := Option.some.inj (hwritten.symm.trans hb)
  obtain ⟨rpc, dispatched⟩ := (methods Api.Description.file (List.mem_singleton_self _)).2
    Api.Description.service (List.mem_singleton_self _) (Api.Description.method "DeleteFile")
    (List.mem_map_of_mem (a := Rpc.deleteFile) (by simp [Rpc.all]))
  have hpath : Api.methodPath Api.Description.file Api.Description.service
      (Api.Description.method "DeleteFile") = Rpc.deleteFile.path :=
    Api.methodPath_method .deleteFile
  have hp : (deletionOf "a").path = Rpc.deleteFile.path := by
    rw [WireRequest.path, deletionOf]
    decide +kernel
  have hreached := dispatched.reached
  rw [hpath, Rpc.ofPath?_path] at hreached
  obtain rfl := Option.some.inj hreached
  have hl : (Message.encode (⟨"a"⟩ : Api.DeleteFileRequest)).length = 3 := by decide +kernel
  have hr : Message.encode (⟨true, ""⟩ : Rpc.deleteFile.Response) = [8, 1] := by decide +kernel
  have hrecord := dispatched.requests.read _ Protobuf.byKey_complete
    (⟨"a"⟩ : Api.DeleteFileRequest) (show _ < _ from hl ▸ by decide)
  obtain ⟨message, hm, -, hs, answer, ha, -, hresponse⟩ := dispatched.understood
    (Service.countingSettings true) shredder (fun _ => 7) (deletionOf "a") (.initial []) _ _
    (hp.trans hpath.symm) rfl rfl (hl ▸ by decide) (hl ▸ by decide) hrecord
  obtain rfl := dispatched.requests.faithful hm
  have hending : (Service.call (Service.countingSettings true) shredder (fun _ => 7) .deleteFile
      ⟨"a"⟩ (.initial [])).ending = .answered (.ok ⟨true, ""⟩) := rfl
  have hstore : (Service.call (Service.countingSettings true) shredder (fun _ => 7) .deleteFile
      ⟨"a"⟩ (.initial [])).state.storage = ["a"] := rfl
  cases Chain.Ending.answered.inj (ha.symm.trans hending)
  have hfits : (Message.encode (⟨true, ""⟩ : Rpc.deleteFile.Response)).length ≤
      (Service.countingSettings true).maxMessageBytes := by
    rw [hr]
    decide
  have hframed : (Message.encode (⟨true, ""⟩ : Rpc.deleteFile.Response)).length < Nat.pow 2 32 := by
    rw [hr]
    decide
  obtain ⟨hbody, hanswer⟩ := hresponse ⟨true, ""⟩ rfl hfits hframed
  rw [hserved] at hs hbody
  rw [hr] at hbody hanswer
  rw [dispatched.output] at hanswer
  have hkept : served.state.storage = ["a"] := by rw [hs, hstore]
  exact ⟨hpage, hwritten, hread (by decide), hkept, hbody, hanswer⟩

end Server

end MediaGateway
