import MediaGateway.Proofs.Api.Messages
import MediaGateway.Proofs.Service.Plan

/-!
# How a handler ends

A handler answers with a response that reports success, or with a status whose
details hold the response of the same call in which nothing is set but the
reason. The kind of the failure decides the code, its message is the message of
the status, and its machine code does not matter.
-/

namespace MediaGateway.Service

open Api (Rpc)
open Grpc (Code Status)
open Protobuf

variable {σ : Type}

/-- No text in memory has so many octets. -/
def textBound : Nat := Nat.pow 2 63

/-- A storage that ends every operation with a result or with a failure, whose message fits in
memory. -/
structure Settled (storage : Storage σ) : Prop where
  /-- No operation panics. -/
  returns : ∀ operation state panic, (storage operation state).outcome ≠ .panicked panic
  /-- Messages fit in memory. -/
  fits : ∀ operation state fault, (storage operation state).outcome = .failed fault →
    fault.message.utf8ByteSize < textBound

/-- A message in which nothing is set but the reason of a failure. -/
structure OnlyReason {M : Type} [Message M] (reason : String) (message : M) : Prop where
  /-- The reason is there. -/
  stated : (Message.view message).lookup "error_message" = some (.text reason)
  /-- Every other field is blank. -/
  blank : ∀ field ∈ Message.fields (M := M), field.name ≠ "error_message" →
    field.get message = field.shape.blank

/-- The refusal of a call sets its reason and nothing else. -/
theorem refusal_onlyReason (reason : String) (rpc : Rpc) :
    OnlyReason reason (refusal reason rpc) := by
  cases rpc <;> exact ⟨rfl, by simp [Message.fields, refusal, Shape.text, Shape.int64,
    Shape.int32, Shape.flag, Shape.nested, Shape.repeated]⟩

/-- The number of the field that holds the reason. -/
def reasonNumber : Rpc → Nat
  | .getUploadAuth => 6
  | .deleteFile => 2
  | .uploadFile | .getFileDetails | .getFiles | .updateFileDetails | .deleteMultipleFiles => 3

/-- The octets of a refusal are those of its reason under the number of that field. -/
theorem encode_refusal (reason : String) (rpc : Rpc) :
    Message.encode (refusal reason rpc) =
      Shape.text.write .byKey (reasonNumber rpc) reason := by
  cases rpc <;>
    simp [Message.encode, Message.encodeOrdered, Message.fields, refusal, reasonNumber]

/-- The details of a refusal decode to it. -/
theorem decode_encode_refusal {reason : String} (hr : reason.utf8ByteSize < textBound)
    (rpc : Rpc) : Message.decode (Message.encode (refusal reason rpc)) =
      .ok (refusal reason rpc) := by
  obtain ⟨levels, hd, lawful⟩ := Api.response_lawful rpc
  have hn : reasonNumber rpc < numberBound := by cases rpc <;> decide
  have ht : textBound + 20 < octetBound := by decide
  have hl := Shape.text_write_length_le .byKey hn
    (by omega : reason.utf8ByteSize < octetBound)
  have hm : (Message.encode (refusal reason rpc)).length < octetBound := by
    rw [encode_refusal]
    omega
  have hs : levels ≤ depthLimit := by
    have hb : depthLimit = 100 := rfl
    omega
  exact Message.decode_encodeOrdered lawful byKey_complete hs _ hm

/-- The failure of a call: the objection to its request, or else the failure of the storage. -/
def Raised (storage : Storage σ) (rpc : Rpc) (request : rpc.Request) (state : σ)
    (fault : Fault) : Prop :=
  objection? rpc request = some fault ∨
    (objection? rpc request = none ∧
      (storage (operationOf rpc request) state).outcome = .failed fault)

/-- A call that ends in a response which is due for the result of the storage. -/
def EndsInSuccess (publicKey : String) (storage : Storage σ) (rpc : Rpc) (request : rpc.Request)
    (state : σ) : Prop :=
  ∃ result response, objection? rpc request = none ∧
    (storage (operationOf rpc request) state).outcome = .done result ∧
    (handler publicKey storage rpc request state).1 = .returned (.ok (.response response)) ∧
    Due rpc request result response

/-- A call that ends in the status of its failure, whose details decode to a response of the same
call in which nothing is set but the reason. -/
def EndsInRefusal (publicKey : String) (storage : Storage σ) (rpc : Rpc) (request : rpc.Request)
    (state : σ) : Prop :=
  ∃ fault status, ∃ envelope : rpc.Response, Raised storage rpc request state fault ∧
    (handler publicKey storage rpc request state).1 = .returned (.error status) ∧
    status.code = Code.ofKind fault.kind ∧ status.message = fault.message ∧
    Message.decode status.details = .ok envelope ∧ OnlyReason fault.message envelope

/-- The storage with other machine codes in its failures. -/
def recoded (codes : Fault → Option String) (storage : Storage σ) : Storage σ :=
  fun operation state =>
    let ran := storage operation state
    match ran.outcome with
    | .failed fault => { ran with outcome := .failed { fault with code := codes fault } }
    | .done _ => ran
    | .panicked _ => ran

/-- The codes that handlers use. -/
def handlerCodes : List Code :=
  [.notFound, .invalidArgument, .resourceExhausted, .unknown, .failedPrecondition, .internal]

/-- Objections fit in memory. -/
theorem objection_fits {rpc : Rpc} {request : rpc.Request} {fault : Fault}
    (h : objection? rpc request = some fault) : fault.message.utf8ByteSize < textBound := by
  have hid : ∀ fileId, fileIdObjection? fileId = some fault →
      fault.message.utf8ByteSize < textBound := by
    intro fileId ho
    rw [fileIdObjection?] at ho
    split at ho
    · obtain rfl := Option.some.inj ho
      decide
    · contradiction
  cases rpc with
  | getUploadAuth => contradiction
  | getFiles => contradiction
  | getFileDetails => exact hid _ h
  | updateFileDetails => exact hid _ h
  | deleteFile => exact hid _ h
  | uploadFile =>
    simp only [objection?] at h
    split at h
    · obtain rfl := Option.some.inj h
      decide
    · split at h
      · obtain rfl := Option.some.inj h
        decide
      · contradiction
  | deleteMultipleFiles =>
    simp only [objection?] at h
    split at h
    · obtain rfl := Option.some.inj h
      decide
    · contradiction

/-- A call that ends in the status of a failure whose message fits ends in a refusal. -/
theorem endsInRefusal_of_faultStatus {publicKey : String} {storage : Storage σ} {rpc : Rpc}
    {request : rpc.Request} {state : σ} {fault : Fault}
    (raised : Raised storage rpc request state fault)
    (fits : fault.message.utf8ByteSize < textBound)
    (h : (handler publicKey storage rpc request state).1 =
      .returned (.error (faultStatus rpc fault))) :
    EndsInRefusal publicKey storage rpc request state :=
  ⟨fault, faultStatus rpc fault, refusal fault.message rpc, raised, h, rfl, rfl,
    decode_encode_refusal fits rpc, refusal_onlyReason fault.message rpc⟩

/-- Every call on a settled storage succeeds or is refused. -/
theorem endsInSuccess_or_endsInRefusal (publicKey : String) {storage : Storage σ}
    (settled : Settled storage) (rpc : Rpc) (request : rpc.Request) (state : σ) :
    EndsInSuccess publicKey storage rpc request state ∨
      EndsInRefusal publicKey storage rpc request state := by
  cases ho : objection? rpc request with
  | some fault =>
    have hh := congrArg Prod.fst (handler_of_objection publicKey storage ho state)
    exact .inr (endsInRefusal_of_faultStatus (.inl ho) (objection_fits ho) hh)
  | none =>
    cases hr : (storage (operationOf rpc request) state).outcome with
    | done result =>
      obtain ⟨_, response, hd, hh⟩ := handler_of_done publicKey storage ho state hr
      exact .inl ⟨result, response, ho, hr, congrArg Prod.fst hh, hd⟩
    | failed fault =>
      obtain ⟨_, hh⟩ := handler_of_failed publicKey storage ho state hr
      exact .inr (endsInRefusal_of_faultStatus (.inr ⟨ho, hr⟩) (settled.fits _ _ _ hr)
        (congrArg Prod.fst hh))
    | panicked panic => exact absurd hr (settled.returns _ _ _)

/-- A handler sees nothing of machine codes. -/
theorem handler_recoded (publicKey : String) (codes : Fault → Option String)
    (storage : Storage σ) (rpc : Rpc) (request : rpc.Request) (state : σ) :
    handler publicKey (recoded codes storage) rpc request state =
      handler publicKey storage rpc request state := by
  cases hp : plan publicKey rpc request with
  | error fault => simp only [handler, hp]
  | ok plan =>
    cases hr : (storage plan.operation state).outcome with
    | done result => simp only [handler, hp, recoded, hr]
    | failed fault => simp only [handler, hp, recoded, hr, faultStatus, failedEvent, Status.ofFault]
    | panicked panic => simp only [handler, hp, recoded, hr]

/-- Every kind of failure has one of the codes of handlers. -/
theorem ofKind_mem_handlerCodes (kind : Fault.Kind) : Code.ofKind kind ∈ handlerCodes := by
  cases kind <;> decide

/-- Whatever a storage does short of a panic, a handler ends in exactly one of two ways: in a
response that is due for the result, or in a refusal with the code, the message and the envelope
of the failure. Its codes are six, and machine codes do not matter. -/
theorem handler_ends_in_envelope (publicKey : String) {storage : Storage σ}
    (settled : Settled storage) (rpc : Rpc) (request : rpc.Request) (state : σ) :
    (EndsInSuccess publicKey storage rpc request state ∨
        EndsInRefusal publicKey storage rpc request state) ∧
      ¬(EndsInSuccess publicKey storage rpc request state ∧
        EndsInRefusal publicKey storage rpc request state) ∧
      (∀ status, (handler publicKey storage rpc request state).1 = .returned (.error status) →
        status.code ∈ handlerCodes) ∧
      ∀ codes, handler publicKey (recoded codes storage) rpc request state =
        handler publicKey storage rpc request state := by
  have hends := endsInSuccess_or_endsInRefusal publicKey settled rpc request state
  refine ⟨hends, ?_, ?_, fun codes => handler_recoded publicKey codes storage rpc request state⟩
  · rintro ⟨⟨_, _, _, _, hs, _⟩, ⟨_, _, _, _, hr, _⟩⟩
    rw [hs] at hr
    cases hr
  · intro status h
    rcases hends with ⟨_, _, _, _, hs, _⟩ | ⟨fault, other, _, _, hr, hc, _⟩
    · rw [hs] at h
      cases h
    · rw [hr] at h
      cases h
      rw [hc]
      exact ofKind_mem_handlerCodes fault.kind

/-- A storage that knows no file, and says so in words beyond ASCII. -/
def emptyStorage : Storage Unit := fun _ state =>
  ⟨.failed ⟨.notFound, "File not found: \u00e9", some "404"⟩, [], state⟩

/-- A call for a file that is not there ends in its envelope. -/
theorem handler_ends_in_envelope_of_empty :
    Settled emptyStorage ∧
      let request : Api.GetFileDetailsRequest := ⟨"\u00e9"⟩
      (EndsInSuccess "public" emptyStorage .getFileDetails request () ∨
          EndsInRefusal "public" emptyStorage .getFileDetails request ()) ∧
        ¬(EndsInSuccess "public" emptyStorage .getFileDetails request () ∧
          EndsInRefusal "public" emptyStorage .getFileDetails request ()) ∧
        (∀ status, (handler "public" emptyStorage .getFileDetails request ()).1 =
          .returned (.error status) → status.code ∈ handlerCodes) ∧
        ∀ codes, handler "public" (recoded codes emptyStorage) .getFileDetails request () =
          handler "public" emptyStorage .getFileDetails request () := by
  have hs : Settled emptyStorage := by
    constructor
    · intro _ _ _ h
      cases h
    · intro _ _ _ h
      cases h
      decide
  exact ⟨hs, handler_ends_in_envelope "public" hs .getFileDetails ⟨"\u00e9"⟩ ()⟩

end MediaGateway.Service
