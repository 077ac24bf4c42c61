import MediaGateway.Grpc.Reply
import MediaGateway.Proofs.Bytes.Base64
import MediaGateway.Proofs.Grpc.Frame

/-!
# What a reply tells its caller

A caller finds the status of a reply among the values behind the body, or among those in front of
it when nothing stands behind. The reply to a call that failed tells the code and the details of
its status. The reply to one that went well holds the response in one frame, unless the response is
longer than what is sent or than a frame can be.
-/

namespace MediaGateway.Grpc

open Protobuf (Message)

namespace Status

/-- The code of a status is written in front. -/
theorem lookup_code (status : Status) :
    status.fields.lookup "grpc-status" = some (toString status.code.number) := rfl

/-- The details of a status are written unless there are none. -/
theorem lookup_details (status : Status) :
    status.fields.lookup "grpc-status-details-bin" =
      if status.details = [] then none else some (Base64.encodeBare status.details) := by
  rw [fields]
  by_cases plain : status.details = []
  · rw [if_pos plain, if_pos plain]
    split <;> rfl
  · rw [if_neg plain, if_neg plain]
    split <;> rfl

end Status

/-- The number of a code is written like that of no other. -/
theorem Code.find_number (code : Code) :
    (Code.all.find? fun other => toString other.number = toString code.number) = some code := by
  cases code <;> decide +kernel

namespace Reply

/-- The values among which the status of a reply stands. -/
def statusFields (reply : Reply) : List (String × String) := reply.trailers.getD reply.headers

/-- The code that a reply tells. -/
def code? (reply : Reply) : Option Code :=
  (reply.statusFields.lookup "grpc-status").bind fun written =>
    Code.all.find? fun code => toString code.number = written

/-- The details that a reply tells. -/
def details? (reply : Reply) : Option Bytes :=
  match reply.statusFields.lookup "grpc-status-details-bin" with
  | none => some []
  | some written => Base64.decodeBare? written

/-- The code of a status is told wherever its values are the first of their names. -/
theorem code?_of_lookup {reply : Reply} (status : Status)
    (h : reply.statusFields.lookup "grpc-status" = status.fields.lookup "grpc-status") :
    reply.code? = some status.code := by
  rw [code?, h, status.lookup_code]
  exact status.code.find_number

/-- So are its details. -/
theorem details?_of_lookup {reply : Reply} (status : Status)
    (h : reply.statusFields.lookup "grpc-status-details-bin" =
      status.fields.lookup "grpc-status-details-bin") :
    reply.details? = some status.details := by
  rw [details?, h, status.lookup_details]
  split
  · next hn =>
    split at hn
    · next he => rw [he]
    · cases hn
  · next written hw =>
    split at hw
    · cases hw
    · rw [← Option.some.inj hw]
      exact Base64.decodeBare?_encodeBare status.details

/-- The reply of a call that failed tells its code, whatever else stands in front of it. -/
theorem code?_failedWith {extra : List (String × String)} (h : extra.lookup "grpc-status" = none)
    (status : Status) : (failedWith extra status).code? = some status.code := by
  have hl : (failedWith extra status).statusFields.lookup "grpc-status" =
      (extra ++ status.fields).lookup "grpc-status" := rfl
  rw [List.lookup_append, h, Option.none_or] at hl
  exact code?_of_lookup status hl

/-- So does the one with nothing else. -/
theorem code?_failed (status : Status) : (failed status).code? = some status.code :=
  code?_failedWith rfl status

/-- It tells its details. -/
theorem details?_failed (status : Status) : (failed status).details? = some status.details :=
  details?_of_lookup status rfl

/-- The reply of a call with messages tells the code at its end. -/
theorem code?_streamed (messages : List Bytes) (status : Status) :
    (streamed messages status).code? = some status.code :=
  code?_of_lookup status rfl

variable {ρ : Type} [Message ρ]

/-- A reply by which a caller learns the answer to a call. -/
inductive Carries (limit : Nat) (reply : Reply) : Except Status ρ → Prop where
  /-- A response stands in the only frame. -/
  | response {response : ρ} (fits : (Message.encode response).length ≤ limit)
      (framed : (Message.encode response).length < Nat.pow 2 32) (code : reply.code? = some .ok)
      (body : takeMessage ρ limit reply.body = .ok (some (response, []))) :
      Carries limit reply (.ok response)
  /-- A response that is longer than what is sent is left out. -/
  | long {response : ρ} (long : limit < (Message.encode response).length)
      (code : reply.code? = some .outOfRange) (body : reply.body = []) :
      Carries limit reply (.ok response)
  /-- So is one that may be sent but does not fit in a frame. -/
  | unframed {response : ρ} (fits : (Message.encode response).length ≤ limit)
      (large : Nat.pow 2 32 ≤ (Message.encode response).length)
      (code : reply.code? = some .resourceExhausted) (body : reply.body = []) :
      Carries limit reply (.ok response)
  /-- A failure has its code and details, and no frame. -/
  | failure {status : Status} (code : reply.code? = some status.code)
      (details : reply.details? = some status.details) (body : reply.body = []) :
      Carries limit reply (.error status)

/-- The reply of a call that failed carries its status. -/
theorem carries_failed (limit : Nat) (status : Status) :
    (failed status).Carries limit (.error status : Except Status ρ) :=
  .failure (code?_failed status) (details?_failed status) rfl

/-- The reply of a call that went well carries a response that survives its frame. -/
theorem carries_succeeded (limit : Nat) {response : ρ}
    (survives : (Message.encode response).length < Nat.pow 2 32 →
      Message.decode (Message.encode response) = .ok response) :
    (succeeded limit (Message.encode response)).Carries limit (.ok response) := by
  rw [succeeded, unsendable?]
  by_cases long : limit < (Message.encode response).length
  · rw [if_pos long]
    exact .long long (code?_streamed _ _) rfl
  have fits := Nat.le_of_not_lt long
  by_cases large : Nat.pow 2 32 ≤ (Message.encode response).length
  · rw [if_neg long, if_pos large]
    exact .unframed fits large (code?_streamed _ _) rfl
  · rw [if_neg long, if_neg large]
    have framed := Nat.lt_of_not_le large
    have hb : (streamed [Message.encode response] .success).body =
        frame (Message.encode response) ++ [] := rfl
    refine .response fits framed (code?_streamed _ _) ?_
    rw [hb]
    exact takeMessage_frame framed fits (survives framed) []

end Reply

end MediaGateway.Grpc
