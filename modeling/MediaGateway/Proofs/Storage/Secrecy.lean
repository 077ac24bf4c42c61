import MediaGateway.Proofs.Http.Masked
import MediaGateway.Proofs.Storage.Operation

/-!
# What the private key decides

The private key of a setup decides the credential of its requests and the
signature of the credentials that it issues, and nothing else. Two storages that
differ in the key alone ask a blind provider for the same, tell the same and come
to the same, but for that signature.
-/

namespace MediaGateway.Storage

/-- A result with nothing in place of a signature. -/
def Operation.unsigned : (operation : Operation) → operation.Result → operation.Result
  | .credential, issued => { issued with signature := "" }
  | .upload _, file => file
  | .details _, file => file
  | .list _, page => page
  | .delete _, done => done
  | .deleteAll _, outcomes => outcomes
  | .update _ _, file => file

/-- Only issued credentials are signed. -/
theorem Operation.unsigned_eq {operation : Operation} (h : operation ≠ .credential)
    (result : operation.Result) : operation.unsigned result = result := by
  cases operation with
  | credential => exact absurd rfl h
  | _ => rfl

/-- A prepared request behind the mask. -/
def Prepared.masked : Prepared → Prepared
  | .ready request => .ready request.masked
  | .unsendable problem => .unsendable problem
  | .withheld fault => .withheld fault

/-- Two inquiries that are the same but for the credentials of their requests. -/
def Inquiry.SameMasked {α : Type} (left right : Inquiry α) : Prop :=
  ∃ prepared, right = { left with request := prepared } ∧
    left.request.masked = prepared.masked

namespace Remote

variable {α : Type} {config : StorageConfig} {key : String}

/-- A setup with another private key. -/
def rekeyed (config : StorageConfig) (key : String) : StorageConfig :=
  { config with privateKey := key }

/-- Requests about a file are the same under another key but for the credential. -/
theorem fileRequest_masked (method : Http.Method) (fileId : String) (about : List String)
    (body : Http.Body) :
    (fileRequest config method fileId about body).masked =
      (fileRequest (rekeyed config key) method fileId about body).masked := by
  have ha : fileAddress (rekeyed config key) fileId about = fileAddress config fileId about := rfl
  rw [fileRequest, fileRequest, ha]
  cases fileAddress config fileId about with
  | error fault => rfl
  | ok place => rfl

/-- Requests to an address that is given as a text are so too. -/
theorem textRequest_masked (method : Http.Method) (address : String)
    (pairs : List Url.Form.Pair) (body : Http.Body) :
    (textRequest config method address pairs body).masked =
      (textRequest (rekeyed config key) method address pairs body).masked := by
  rw [textRequest, textRequest]
  cases Url.read address with
  | error problem => rfl
  | ok place =>
    dsimp only
    split <;> rfl

/-- Every operation asks for the same under another key. -/
theorem inquiry_rekeyed {operation : Operation} {inquiry : Inquiry operation.Result}
    (h : inquiry? config operation = some inquiry) :
    ∃ other, inquiry? (rekeyed config key) operation = some other ∧
      inquiry.SameMasked other := by
  cases operation with
  | credential => cases h
  | upload content =>
    obtain rfl := Option.some.inj h
    exact ⟨_, rfl, _, rfl, textRequest_masked ..⟩
  | details fileId =>
    obtain rfl := Option.some.inj h
    exact ⟨_, rfl, _, rfl, fileRequest_masked ..⟩
  | list query =>
    obtain rfl := Option.some.inj h
    exact ⟨_, rfl, _, rfl, textRequest_masked ..⟩
  | delete fileId =>
    obtain rfl := Option.some.inj h
    exact ⟨_, rfl, _, rfl, fileRequest_masked ..⟩
  | deleteAll fileIds =>
    obtain rfl := Option.some.inj h
    exact ⟨_, rfl, _, rfl, textRequest_masked ..⟩
  | update fileId changes =>
    obtain rfl := Option.some.inj h
    exact ⟨_, rfl, _, rfl, fileRequest_masked ..⟩

/-- A state with the requests sent so far behind the mask. -/
def State.masked (state : State) : State :=
  { state with sent := state.sent.map Http.Request.masked }

/-- An inquiry comes to the same as one that is the same but for the credential: the same end, the
same events, and requests that look the same. -/
theorem ask_masked {left right : Remote} (provider : right.provider = left.provider)
    (blind : left.provider.IsBlind) {inquiry other : Inquiry α} (same : inquiry.SameMasked other)
    {state later : State} (hs : state.masked = later.masked) :
    (left.ask inquiry state).outcome = (right.ask other later).outcome ∧
      (left.ask inquiry state).events = (right.ask other later).events ∧
      (left.ask inquiry state).state.masked = (right.ask other later).state.masked := by
  obtain ⟨prepared, rfl, hp⟩ := same
  obtain ⟨sent, random⟩ := state
  obtain ⟨sentLater, randomLater⟩ := later
  obtain ⟨hm, rfl⟩ := State.mk.inj hs
  simp only [ask, Inquiry.run]
  cases hq : inquiry.request with
  | withheld fault =>
    rw [hq] at hp
    cases prepared with
    | withheld other =>
      obtain rfl := Prepared.withheld.inj hp
      exact ⟨rfl, rfl, hs⟩
    | ready request => cases hp
    | unsendable problem => cases hp
  | unsendable problem =>
    rw [hq] at hp
    cases prepared with
    | unsendable other =>
      obtain rfl := Prepared.unsendable.inj hp
      exact ⟨rfl, rfl, hs⟩
    | ready request => cases hp
    | withheld fault => cases hp
  | ready request =>
    rw [hq] at hp
    cases prepared with
    | unsendable other => cases hp
    | withheld fault => cases hp
    | ready other =>
      obtain ⟨he, hl⟩ := Http.send_masked blind (Prepared.ready.inj hp) hm
      rw [provider]
      dsimp only
      rw [← he]
      cases (Http.send left.provider request sent).result with
      | error problem => exact ⟨rfl, rfl, congrArg (State.mk · random) hl⟩
      | ok answer => exact ⟨rfl, rfl, congrArg (State.mk · random) hl⟩

/-- How an operation ends, with nothing in place of a signature. -/
def unsignedOutcome (operation : Operation) :
    Outcome operation.Result → Outcome operation.Result
  | .done result => .done (operation.unsigned result)
  | .failed fault => .failed fault
  | .panicked panic => .panicked panic

/-- Two ends that are the same with nothing in place of a signature. -/
theorem unsignedOutcome_cases {operation : Operation} {left right : Outcome operation.Result}
    (h : unsignedOutcome operation left = unsignedOutcome operation right) :
    (∃ result other, left = .done result ∧ right = .done other ∧
        operation.unsigned result = operation.unsigned other) ∨
      (∃ fault, left = .failed fault ∧ right = .failed fault) ∨
      ∃ panic, left = .panicked panic ∧ right = .panicked panic := by
  cases left with
  | done result =>
    cases right with
    | done other => exact .inl ⟨result, other, rfl, rfl, Outcome.done.inj h⟩
    | failed fault => cases h
    | panicked panic => cases h
  | failed fault =>
    cases right with
    | failed other => exact .inr (.inl ⟨fault, rfl, congrArg _ (Outcome.failed.inj h).symm⟩)
    | done result => cases h
    | panicked panic => cases h
  | panicked panic =>
    cases right with
    | panicked other => exact .inr (.inr ⟨panic, rfl, congrArg _ (Outcome.panicked.inj h).symm⟩)
    | done result => cases h
    | failed fault => cases h

/-- Why an operation that asks the provider is refused without asking, and what is told of that: a
file may be too large, and a batch too long. -/
def overCeiling? (config : StorageConfig) : Operation → Option (Fault × Event)
  | .upload content =>
    if isTooLarge config content then
      some (tooLarge config content, tooLargeEvent config content)
    else none
  | .deleteAll fileIds =>
    if isTooMany config fileIds then some (tooMany config, tooManyEvent config fileIds) else none
  | _ => none

/-- The key of a setup has no part in its ceilings. -/
theorem overCeiling_rekeyed (config : StorageConfig) (key : String) (operation : Operation) :
    overCeiling? (rekeyed config key) operation = overCeiling? config operation := by
  cases operation <;> rfl

/-- An operation that asks the provider fails at a ceiling, or else asks. -/
theorem storage_eq_of_inquiry {remote : Remote} {operation : Operation}
    {inquiry : Inquiry operation.Result}
    (hi : inquiry? remote.config operation = some inquiry) (state : State) :
    remote.storage operation state =
      match overCeiling? remote.config operation with
      | some (fault, event) => ⟨.failed fault, [event], state⟩
      | none => remote.ask inquiry state := by
  cases operation with
  | credential => cases hi
  | upload content =>
    obtain rfl := Option.some.inj hi
    rw [storage, overCeiling?]
    split <;> rfl
  | deleteAll fileIds =>
    obtain rfl := Option.some.inj hi
    rw [storage, overCeiling?]
    split <;> rfl
  | _ =>
    obtain rfl := Option.some.inj hi
    rfl

/-- A credential is the same whatever the key is, but for its signature. -/
theorem issue_masked {left right : Remote} (now : right.now = left.now) {state later : State}
    (hs : state.masked = later.masked) :
    unsignedOutcome .credential (left.issue state).outcome =
        unsignedOutcome .credential (right.issue later).outcome ∧
      (left.issue state).events = (right.issue later).events ∧
      (left.issue state).state.masked = (right.issue later).state.masked := by
  obtain ⟨sent, random⟩ := state
  obtain ⟨sentLater, randomLater⟩ := later
  obtain ⟨hm, rfl⟩ := State.mk.inj hs
  simp only [issue, unsignedOutcome, Operation.unsigned, uploadCredential, State.masked, now, hm,
    and_self]

/-- An operation comes to the same under another key, but for a signature: it tells the same, and
what it sends looks the same. -/
theorem storage_masked {left right : Remote} (hk : right.config = rekeyed left.config key)
    (now : right.now = left.now) (provider : right.provider = left.provider)
    (blind : left.provider.IsBlind) (operation : Operation) {state later : State}
    (hs : state.masked = later.masked) :
    unsignedOutcome operation (left.storage operation state).outcome =
        unsignedOutcome operation (right.storage operation later).outcome ∧
      (left.storage operation state).events = (right.storage operation later).events ∧
      (left.storage operation state).state.masked =
        (right.storage operation later).state.masked := by
  cases hi : inquiry? left.config operation with
  | none =>
    cases operation with
    | credential => exact issue_masked now hs
    | _ => cases hi
  | some inquiry =>
    have rekeyed : ∃ other, inquiry? right.config operation = some other ∧
        inquiry.SameMasked other := hk ▸ inquiry_rekeyed hi
    obtain ⟨other, ho, same⟩ := rekeyed
    rw [storage_eq_of_inquiry hi, storage_eq_of_inquiry ho, hk, overCeiling_rekeyed]
    split
    · exact ⟨rfl, rfl, hs⟩
    · obtain ⟨outcome, told⟩ := ask_masked provider blind same hs
      exact ⟨congrArg (unsignedOutcome operation) outcome, told⟩

end Remote

end MediaGateway.Storage
