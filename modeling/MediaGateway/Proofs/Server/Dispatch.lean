import MediaGateway.Proofs.Api.Messages
import MediaGateway.Proofs.Grpc.Reply
import MediaGateway.Proofs.Service.History
import MediaGateway.Server.Router

/-!
# Calls over the wire

A request that holds a message of the call under its path in one frame comes to the call with this
message, and the reply carries what the call answers. A frame whose message is too long or does not
read as a request of the call ends in a failure of the reader, and a path under which nothing is
served ends in the code for that; neither comes to the service.
-/

namespace MediaGateway

namespace Api.Rpc

/-- The path of a call reaches the call. -/
theorem ofPath?_path (rpc : Rpc) : ofPath? rpc.path = some rpc := by
  cases rpc <;> decide +kernel

/-- A path that is no call's reaches none. -/
theorem ofPath?_eq_none {path : String} (h : ∀ rpc : Rpc, path ≠ rpc.path) :
    ofPath? path = none := by
  rw [ofPath?, List.find?_eq_none]
  intro rpc _ he
  exact h rpc (of_decide_eq_true he).symm

end Api.Rpc

namespace Server

open Api (Rpc)
open Grpc (Code Reply Status)
open Protobuf (EntryOrder Message octetBound)

variable {σ : Type} {settings : Settings} {storage : Storage σ} {took : Nat → Chain.Reading}
  {wire : WireRequest} {state : Service.State σ} {rpc : Rpc}

/-- A request whose message is read comes to the call with it. -/
theorem serve_read (path : Rpc.ofPath? wire.path = some rpc) (plain : compressed? wire = none)
    {message : rpc.Request}
    (read : Grpc.readRequest rpc.Request settings.maxMessageBytes wire.body = .ok message) :
    let called := Service.call settings storage took rpc message state
    serve settings storage took wire state =
      ⟨replyOf settings.maxMessageBytes called.ending, called.events, called.state⟩ := by
  rw [serve, path]
  simp only [serveCall, plain]
  rw [read]

/-- A request whose message cannot be read is refused, and comes to no call. -/
theorem serve_unread (path : Rpc.ofPath? wire.path = some rpc) {status : Status}
    (refused : status.code ≠ .ok)
    (read : Grpc.readRequest rpc.Request settings.maxMessageBytes wire.body = .error status) :
    ∃ code ≠ Code.ok, ∃ reply, reply.code? = some code ∧ reply.body = [] ∧
      serve settings storage took wire state = ⟨reply, [], state⟩ := by
  rw [serve, path]
  simp only [serveCall]
  rw [read, compressed?]
  cases wire.encoding with
  | none => exact ⟨status.code, refused, _, Reply.code?_failed status, rfl, rfl⟩
  | some encoding =>
    by_cases identity : encoding = "identity"
    · simp only [if_pos identity]
      exact ⟨status.code, refused, _, Reply.code?_failed status, rfl, rfl⟩
    · simp only [if_neg identity]
      exact ⟨.unimplemented, Code.noConfusion, _, Reply.code?_failedWith rfl _, rfl, rfl⟩

/-- A request under a path where nothing is served comes to no call. -/
theorem serve_unknown (unknown : ∀ rpc : Rpc, wire.path ≠ rpc.path)
    (unserved : ¬ (settings.reflectionEnabled ∧
      wire.path = Grpc.Reflection.Description.path)) :
    serve settings storage took wire state = ⟨unknownPath, [], state⟩ := by
  rw [serve, Rpc.ofPath?_eq_none unknown]
  exact if_neg unserved

/-- A message of few levels that fits in a frame reads back from it. -/
theorem decode_framed {M : Type} [Message M] {levels : Nat} (lawful : Message.Lawful M levels)
    (few : levels ≤ 2) {order : EntryOrder} (complete : order.Complete) {message : M}
    (framed : (Message.encodeOrdered order message).length < Nat.pow 2 32) :
    Message.decode (Message.encodeOrdered order message) = .ok message := by
  have hd : levels ≤ Protobuf.depthLimit := Nat.le_trans few (by decide)
  have hb : Nat.pow 2 32 < octetBound := by decide
  exact Message.decode_encodeOrdered lawful complete hd message (Nat.lt_trans framed hb)

/-- The answer to a call is carried by the reply to it. -/
theorem carries_replyOf (limit : Nat) (answer : Except Status rpc.Response) :
    (replyOf limit (.answered answer)).Carries limit answer := by
  cases answer with
  | error status => exact Reply.carries_failed limit status
  | ok response =>
    obtain ⟨levels, few, lawful⟩ := Api.response_lawful rpc
    exact Reply.carries_succeeded limit (decode_framed lawful few Protobuf.byKey_complete)

/-- A request that holds a message of the call under its path in one plain frame, with the entries
of its maps in any order, is dealt with like the call itself: the same is told, the same is left
behind by the storage and in the counts, and the reply carries the answer of the call. Under a path
where nothing is served the code for that is told, and a frame whose message is too long or does
not read as a request ends in a failure; then nothing is told and nothing is changed. -/
theorem served_as_called (settings : Settings) (storage : Storage σ) (took : Nat → Chain.Reading)
    (wire : WireRequest) (state : Service.State σ) :
    let served := serve settings storage took wire state
    (∀ (rpc : Rpc) (message : rpc.Request) (order : EntryOrder), order.Complete →
      wire.path = rpc.path → compressed? wire = none →
      wire.body = Grpc.frame (Message.encodeOrdered order message) →
      (Message.encodeOrdered order message).length ≤ settings.maxMessageBytes →
      (Message.encodeOrdered order message).length < Nat.pow 2 32 →
        let called := Service.call settings storage took rpc message state
        served.events = called.events ∧ served.state = called.state ∧
          ∃ answer, called.ending = .answered answer ∧
            served.reply.Carries settings.maxMessageBytes answer) ∧
    ((∀ rpc : Rpc, wire.path ≠ rpc.path) →
      ¬ (settings.reflectionEnabled ∧ wire.path = Grpc.Reflection.Description.path) →
        served.reply.code? = some .unimplemented ∧ served.events = [] ∧ served.state = state) ∧
    ∀ (rpc : Rpc) (mark : UInt8) (content : Bytes), wire.path = rpc.path →
      wire.body = Grpc.markedFrame mark content → content.length < Nat.pow 2 32 →
      (settings.maxMessageBytes < content.length ∨
        ∃ error, (Message.decode content : Except Protobuf.DecodeError rpc.Request) =
          .error error) →
        (∃ code ≠ Code.ok, served.reply.code? = some code) ∧
          served.events = [] ∧ served.state = state := by
  intro served
  refine ⟨?_, ?_, ?_⟩
  · intro rpc message order complete path plain body fits framed called
    obtain ⟨levels, few, lawful⟩ := Api.request_lawful rpc
    have hm := decode_framed lawful (Nat.le_succ_of_le few) complete framed
    have hr := Grpc.readRequest_frame framed fits hm
    rw [← body] at hr
    have hp : Rpc.ofPath? wire.path = some rpc := path ▸ rpc.ofPath?_path
    have hs : served = _ := serve_read hp plain hr
    obtain ⟨answer, ha⟩ := Service.exists_answer settings storage took rpc message state
    have hc := carries_replyOf settings.maxMessageBytes answer
    rw [← ha] at hc
    rw [hs]
    exact ⟨rfl, rfl, answer, ha, hc⟩
  · intro unknown unserved
    have hs : served = _ := serve_unknown unknown unserved
    rw [hs]
    exact ⟨Reply.code?_failed _, rfl, rfl⟩
  · intro rpc mark content path body short bad
    obtain ⟨status, refused, hr⟩ := Grpc.readRequest_refused (M := rpc.Request) mark short
      (.inr bad)
    rw [← body] at hr
    have hp : Rpc.ofPath? wire.path = some rpc := path ▸ rpc.ofPath?_path
    obtain ⟨code, hne, reply, hc, -, hs⟩ := serve_unread hp refused hr
    have hv : served = ⟨reply, [], state⟩ := hs
    rw [hv]
    exact ⟨⟨code, hne, hc⟩, rfl, rfl⟩

/-- A storage that deletes whatever it is asked to delete and keeps a list of it, and can do nothing
else. -/
def shredder : Storage (List String) := fun operation deleted =>
  match operation with
  | .delete fileId => ⟨.done (), [], deleted ++ [fileId]⟩
  | _ => ⟨.failed (.invalid "only deletes"), [], deleted⟩

/-- A request that holds a deletion in one frame. -/
def deletionOf (fileId : String) : WireRequest :=
  ⟨"/media.v1.MediaService/DeleteFile", none,
    Grpc.frame (Message.encode (⟨fileId⟩ : Api.DeleteFileRequest))⟩

/-- A deletion over the wire is carried out, and its response is the only frame. -/
theorem deletion_served_as_called :
    let settings := Service.countingSettings true
    let served := serve settings shredder (fun _ => 7) (deletionOf "a") (.initial [])
    served.reply.code? = some .ok ∧
      Grpc.takeMessage Api.DeleteFileResponse settings.maxMessageBytes served.reply.body =
        .ok (some (⟨true, ""⟩, [])) ∧
      served.state.storage = ["a"] := by
  intro settings served
  have hp : (deletionOf "a").path = Rpc.deleteFile.path := by
    rw [WireRequest.path, deletionOf]
    decide +kernel
  have hl : (Message.encode (⟨"a"⟩ : Api.DeleteFileRequest)).length = 3 := by decide +kernel
  have hr : (Message.encode (⟨true, ""⟩ : Api.DeleteFileResponse)).length = 2 := by decide +kernel
  have hending : (Service.call settings shredder (fun _ => 7) .deleteFile ⟨"a"⟩
      (.initial [])).ending = .answered (.ok ⟨true, ""⟩) := rfl
  have hstore : (Service.call settings shredder (fun _ => 7) .deleteFile ⟨"a"⟩
      (.initial [])).state.storage = ["a"] := rfl
  obtain ⟨-, hs, answer, ha, hc⟩ := (served_as_called settings shredder (fun _ => 7)
    (deletionOf "a") (.initial [])).1 .deleteFile ⟨"a"⟩ _ Protobuf.byKey_complete hp rfl rfl
    (hl ▸ by decide) (hl ▸ by decide)
  cases Chain.Ending.answered.inj (ha.symm.trans hending)
  have hkept : served.state.storage = ["a"] := by rw [show served.state = _ from hs, hstore]
  generalize served.reply = reply at hc ⊢
  cases hc with
  | response fits framed code body => exact ⟨code, body, hkept⟩
  | long long => exact absurd (hr ▸ long) (by decide)
  | unframed _ large => exact absurd (hr ▸ large) (by decide)

end Server

end MediaGateway
