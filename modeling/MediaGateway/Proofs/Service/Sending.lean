import MediaGateway.Proofs.Service.History
import MediaGateway.Proofs.Storage.Place

/-!
# What a call sends

A call sends one request or none, and the request of the call and the settings
decide which, whatever the provider does. Nothing is sent for a call that is
refused, for one that issues a credential, and to an address that is too long.
Whatever else is sent follows an answer that said where else to ask.
-/

namespace MediaGateway

namespace Http

/-- What is sent where a first request is due or none: nothing without one and nothing when its
address is too long, else that request and whatever answers lead to. -/
inductive Sent (provider : Provider) (before : List Request) :
    Option Request → List Request → Prop where
  /-- No request is due. -/
  | nothing : Sent provider before none before
  /-- The address of the request is too long. -/
  | withheld {first : Request} (long : longestAddress < first.url.text.length) :
    Sent provider before (some first) before
  /-- The request is sent, and only what follows it is sent after it. -/
  | once {first : Request} {more : List Request} (fits : first.url.text.length ≤ longestAddress)
    (later : Follows provider before first more) :
    Sent provider before (some first) (before ++ first :: more)

end Http

namespace Storage.Remote

/-- An inquiry with a request of an operation sends it, unless its address is too long: then the
operation fails as a failure of the provider. -/
theorem ask_sent {α : Type} (remote : Remote) {api upload : Url} {operation : Operation}
    {inquiry : Inquiry α} {first : Http.Request}
    (ready : Ready remote.config api upload operation inquiry.request first) (state : State) :
    Http.Sent remote.provider state.sent (some first) (remote.ask inquiry state).state.sent ∧
      (Http.longestAddress < first.url.text.length →
        (remote.ask inquiry state).outcome =
          .failed (problemFault (.badAddress first.url))) := by
  rw [ask_ready remote ready.ready]
  by_cases hl : first.url.text.length ≤ Http.longestAddress
  · obtain ⟨more, hm, hf⟩ := Http.exchange_follows remote.provider first.url Http.redirectLimit
      first state.sent
    refine ⟨?_, fun long => absurd hl (Nat.not_le_of_gt long)⟩
    rw [Http.send, if_pos (ready.sendable.mpr hl), hm]
    exact .once hl hf
  · -- Its host can be reached, so the length of its text is all that can keep it back.
    have hs : Http.isSendable first.url = false :=
      Bool.eq_false_iff.mpr fun h => hl (ready.sendable.mp h)
    have he := Http.send_unsendable remote.provider hs state.sent
    rw [he]
    refine ⟨.withheld (Nat.lt_of_not_le hl), fun _ => ?_⟩
    have hm : (Prepared.ready first).Meets remote.provider state.sent
        (Http.send remote.provider first state.sent).result := .sent first
    rw [he, ← ready.ready] at hm
    exact ask_problem hm

end Storage.Remote

namespace Service

open Api (Rpc)
open Grpc (Code Status)
open Storage (Remote)

/-- The code of a call about a file that is refused. -/
def fileCode? (fileId : String) : Option Code :=
  if fileId = "" ∨ fileId = "." ∨ fileId = ".." then some .invalidArgument else none

/-- The code of a call that is refused before anything is sent. -/
def refusalCode? (config : StorageConfig) : (rpc : Rpc) → rpc.Request → Option Code
  | .getUploadAuth, _ => none
  | .uploadFile, (request : Api.UploadFileRequest) =>
    if request.fileData = [] ∨ request.filename = "" then some .invalidArgument
    else if Remote.isTooLarge config request.toUpload then some .resourceExhausted
    else none
  | .getFileDetails, (request : Api.GetFileDetailsRequest) => fileCode? request.fileId
  | .getFiles, _ => none
  | .updateFileDetails, (request : Api.UpdateFileDetailsRequest) => fileCode? request.fileId
  | .deleteFile, (request : Api.DeleteFileRequest) => fileCode? request.fileId
  | .deleteMultipleFiles, (request : Api.DeleteMultipleFilesRequest) =>
    if request.fileIds = [] then some .invalidArgument
    else if config.maxFilesPerBatchDelete.toNat < request.fileIds.length then
      some .failedPrecondition
    else none

/-- The failure of a call that is refused: the objection to its request, or else the refusal of
the operation that it asks for. -/
def Refused (config : StorageConfig) (rpc : Rpc) (request : rpc.Request) (fault : Fault) : Prop :=
  objection? rpc request = some fault ∨
    objection? rpc request = none ∧
      Remote.refusal? config (operationOf rpc request) = some fault

/-- A call that is not refused: its request is acceptable, and so is the operation that it asks
for. -/
def Accepted (config : StorageConfig) (rpc : Rpc) (request : rpc.Request) : Prop :=
  objection? rpc request = none ∧ Remote.refusal? config (operationOf rpc request) = none

/-- A call about a file is refused with a code, or there is none. -/
theorem fileCode_cases {config : StorageConfig} {api : Url}
    (takes : Url.TakesPath config.apiBaseUrl api) (call : Remote.FileCall) (fileId : String) :
    (∃ fault, (fileIdObjection? fileId = some fault ∨ fileIdObjection? fileId = none ∧
        Remote.addressRefusal? config fileId call.about = some fault) ∧
      fileCode? fileId = some (Code.ofKind fault.kind)) ∨
    (fileIdObjection? fileId = none ∧
      Remote.addressRefusal? config fileId call.about = none) ∧ fileCode? fileId = none := by
  have ha := Remote.addressRefusal_eq takes call fileId
  by_cases he : fileId = ""
  · exact .inl ⟨_, .inl (if_pos he), if_pos (.inl he)⟩
  · by_cases hd : fileId = "." ∨ fileId = ".."
    · rw [if_pos hd] at ha
      exact .inl ⟨_, .inr ⟨if_neg he, ha⟩, if_pos (.inr hd)⟩
    · rw [if_neg hd] at ha
      exact .inr ⟨⟨if_neg he, ha⟩, if_neg fun h => h.elim he hd⟩

/-- A call is refused with the code of its failure, or it is accepted and there is no code. -/
theorem refusalCode_cases {config : StorageConfig} {api : Url}
    (takes : Url.TakesPath config.apiBaseUrl api) (rpc : Rpc) (request : rpc.Request) :
    (∃ fault, Refused config rpc request fault ∧
      refusalCode? config rpc request = some (Code.ofKind fault.kind)) ∨
    Accepted config rpc request ∧ refusalCode? config rpc request = none := by
  cases rpc with
  | getUploadAuth => exact .inr ⟨⟨rfl, rfl⟩, rfl⟩
  | getFiles => exact .inr ⟨⟨rfl, rfl⟩, rfl⟩
  | getFileDetails => exact fileCode_cases takes .details _
  | updateFileDetails =>
    exact fileCode_cases takes (.update (Api.UpdateFileDetailsRequest.toUpdate request)) _
  | deleteFile => exact fileCode_cases takes .delete _
  | uploadFile =>
    let upload : Api.UploadFileRequest := request
    by_cases hd : upload.fileData = []
    · exact .inl ⟨_, .inl (if_pos hd), if_pos (.inl hd)⟩
    · by_cases hf : upload.filename = ""
      · exact .inl ⟨_, .inl ((if_neg hd).trans (if_pos hf)), if_pos (.inr hf)⟩
      · have ho : objection? .uploadFile request = none := (if_neg hd).trans (if_neg hf)
        have hc : ¬(upload.fileData = [] ∨ upload.filename = "") := fun h => h.elim hd hf
        by_cases hl : Remote.isTooLarge config upload.toUpload = true
        · exact .inl ⟨_, .inr ⟨ho, if_pos hl⟩, (if_neg hc).trans (if_pos hl)⟩
        · exact .inr ⟨⟨ho, if_neg hl⟩, (if_neg hc).trans (if_neg hl)⟩
  | deleteMultipleFiles =>
    simp only [Refused, Accepted, refusalCode?, objection?, operationOf, Remote.refusal?,
      Remote.isTooMany, decide_eq_true_eq]
    by_cases hn : Api.DeleteMultipleFilesRequest.fileIds request = []
    · rw [if_pos hn, if_pos hn]
      exact .inl ⟨_, .inl rfl, rfl⟩
    · rw [if_neg hn, if_neg hn]
      split
      · exact .inl ⟨_, .inr ⟨rfl, rfl⟩, rfl⟩
      · exact .inr ⟨⟨rfl, rfl⟩, rfl⟩

/-- A call that is refused ends in the status of its failure, and nothing is sent. -/
theorem call_refused (settings : Settings) {remote : Remote} (took : Nat → Chain.Reading)
    {rpc : Rpc} {request : rpc.Request} {state : State Remote.State} (reached : Reached state)
    {fault : Fault} (h : Refused remote.config rpc request fault) :
    (call settings remote.storage took rpc request state).ending =
        .answered (.error (faultStatus rpc fault)) ∧
      (call settings remote.storage took rpc request state).state.storage = state.storage := by
  have hh : (handler settings.ikPublicKey remote.storage rpc request state.storage).1 =
        .returned (.error (faultStatus rpc fault)) ∧
      (handler settings.ikPublicKey remote.storage rpc request state.storage).2.2 =
        state.storage := by
    rcases h with ho | ⟨ho, hr⟩
    · rw [handler_of_objection settings.ikPublicKey remote.storage ho]
      exact ⟨rfl, rfl⟩
    · obtain ⟨hf, hs⟩ := Remote.storage_refused hr state.storage
      obtain ⟨fields, he⟩ := handler_of_failed settings.ikPublicKey remote.storage ho _ hf
      rw [he]
      exact ⟨rfl, hs⟩
  have hr : (handler settings.ikPublicKey remote.storage rpc request state.storage).1 =
      .returned ((Except.error (faultStatus rpc fault) : Except Status rpc.Response).map
        .response) := hh.1
  obtain ⟨he, hs⟩ := call_ends took reached hr
  exact ⟨he, hs.trans hh.2⟩

/-- A call that is accepted leaves the storage as the operation does that it asks for. -/
theorem call_accepted (settings : Settings) (remote : Remote) (took : Nat → Chain.Reading)
    {rpc : Rpc} {request : rpc.Request} {state : State Remote.State} (reached : Reached state)
    (h : objection? rpc request = none) :
    (call settings remote.storage took rpc request state).state.storage =
        (remote.storage (operationOf rpc request) state.storage).state ∧
      ∀ fault, (remote.storage (operationOf rpc request) state.storage).outcome = .failed fault →
        (call settings remote.storage took rpc request state).ending =
          .answered (.error (faultStatus rpc fault)) := by
  obtain ⟨result, hr⟩ :=
    handler_returns settings.ikPublicKey remote rpc request state.storage
  obtain ⟨he, hs⟩ := call_ends took reached hr
  rcases remote.storage_ends (operationOf rpc request) state.storage with
    ⟨found, hd⟩ | ⟨fault, hf, _⟩
  · obtain ⟨fields, response, _, hh⟩ :=
      handler_of_done settings.ikPublicKey remote.storage h state.storage hd
    refine ⟨by rw [hs, hh], fun fault hf => ?_⟩
    rw [hd] at hf
    cases hf
  · obtain ⟨fields, hh⟩ :=
      handler_of_failed settings.ikPublicKey remote.storage h state.storage hf
    refine ⟨by rw [hs, hh], fun other ho => ?_⟩
    obtain rfl := Storage.Outcome.failed.inj (hf.symm.trans ho)
    cases result with
    | ok response =>
      rw [hh] at hr
      cases hr
    | error status =>
      rw [hh] at hr
      cases hr
      exact he

/-- What was sent hands over a body by a method. -/
structure HandsOver (remote : Remote) (method : Http.Method) (body : Http.Body)
    (IsPlace : Url → Prop) (before after : List Http.Request) : Prop where
  /-- One request with the body is tried, at the place that there is for it. -/
  tried : ∀ place, IsPlace place → Http.Tried remote.provider before
    ⟨method, place, Remote.credential remote.config, body⟩ after
  /-- Everything that was sent hands over the body, or nothing, whatever place there is. -/
  only : ∃ more, after = before ++ more ∧ ∀ later ∈ more, later.Hands method body

/-- A call whose operation asks the provider hands over what the request of its inquiry does. -/
theorem call_handsOver (settings : Settings) (remote : Remote) (took : Nat → Chain.Reading)
    {rpc : Rpc} {request : rpc.Request} {state : State Remote.State} (reached : Reached state)
    (h : objection? rpc request = none)
    {inquiry : Storage.Inquiry (operationOf rpc request).Result}
    (asks : remote.storage (operationOf rpc request) state.storage =
      remote.ask inquiry state.storage)
    {method : Http.Method} {body : Http.Body} {IsPlace : Url → Prop}
    (ready : ∀ place, IsPlace place →
      inquiry.request = .ready ⟨method, place, Remote.credential remote.config, body⟩)
    (only : ∀ first, inquiry.request = .ready first →
      first.method = method ∧ first.body = body) :
    HandsOver remote method body IsPlace state.storage.sent
      (call settings remote.storage took rpc request state).state.storage.sent := by
  rw [(call_accepted settings remote took reached h).1, asks]
  refine ⟨fun place here => ?_, remote.ask_hands (fun first hf => .inl (only first hf)) _⟩
  rw [Remote.ask_ready remote (ready place here)]
  exact Http.tried_send remote.provider _ state.storage.sent

/-- A call ends in a status with a code. -/
def EndsIn {ρ : Type} (code : Code) (ending : Chain.Ending ρ) : Prop :=
  ∃ status : Status, ending = .answered (.error status) ∧ status.code = code

/-- The first request that a call has to send, if it has one. -/
structure Sends (config : StorageConfig) (api upload : Url) (rpc : Rpc) (request : rpc.Request)
    (first? : Option Http.Request) : Prop where
  /-- There is none for a call that issues a credential, for one that is refused, and for no
  other. -/
  none_iff : first? = none ↔ rpc = .getUploadAuth ∨ refusalCode? config rpc request ≠ none
  /-- It is the request of the operation that the call asks for. -/
  own : ∀ first, first? = some first → Remote.Own config api upload (operationOf rpc request) first

/-- A call that issues a credential or is refused has none. -/
theorem sends_none {config : StorageConfig} {api upload : Url} {rpc : Rpc} {request : rpc.Request}
    (h : rpc = .getUploadAuth ∨ refusalCode? config rpc request ≠ none) :
    Sends config api upload rpc request none :=
  ⟨⟨fun _ => h, fun _ => rfl⟩, fun first hf => absurd hf.symm (Option.some_ne_none first)⟩

/-- Any other call has the request of its operation. -/
theorem sends_some {config : StorageConfig} {api upload : Url} {rpc : Rpc} {request : rpc.Request}
    (hu : rpc ≠ .getUploadAuth) (hc : refusalCode? config rpc request = none)
    {first : Http.Request} (own : Remote.Own config api upload (operationOf rpc request) first) :
    Sends config api upload rpc request (some first) := by
  refine ⟨⟨fun h => absurd h (Option.some_ne_none first), fun h => ?_⟩, fun other ho => ?_⟩
  · exact h.elim (absurd · hu) (absurd hc)
  · rw [← Option.some.inj ho]
    exact own

/-- Only one kind of call asks for a credential. -/
theorem operationOf_ne_credential {rpc : Rpc} (h : rpc ≠ .getUploadAuth) (request : rpc.Request) :
    operationOf rpc request ≠ .credential := by
  cases rpc with
  | getUploadAuth => exact absurd rfl h
  | _ => exact Storage.Operation.noConfusion

/-- A call that is accepted sends the request of its operation, unless the address of that is too
long: then it fails as for a provider that does. -/
theorem call_asks (settings : Settings) (remote : Remote) (took : Nat → Chain.Reading) {rpc : Rpc}
    {request : rpc.Request} {state : State Remote.State} (reached : Reached state)
    (accepted : Accepted remote.config rpc request)
    {inquiry : Storage.Inquiry (operationOf rpc request).Result}
    (hi : Remote.inquiry? remote.config (operationOf rpc request) = some inquiry)
    {api upload : Url} {first : Http.Request} (ready : Remote.Ready remote.config api upload
      (operationOf rpc request) inquiry.request first) :
    let called := call settings remote.storage took rpc request state
    Http.Sent remote.provider state.storage.sent (some first) called.state.storage.sent ∧
      (Http.longestAddress < first.url.text.length → EndsIn .unknown called.ending) := by
  obtain ⟨hs, hf⟩ := call_accepted settings remote took reached accepted.1
  obtain ⟨hm, hw⟩ := Remote.ask_sent remote ready state.storage
  rw [← Remote.storage_asks accepted.2 hi] at hm hw
  refine ⟨?_, fun long => ⟨_, hf _ (hw long), rfl⟩⟩
  rw [hs]
  exact hm

/-- A call sends one request or none. The settings and the request of the call decide which, and the
request that it sends: none is due for a credential and for a call that is refused, which then fails
with the code of the refusal, and else that of the operation that the call asks for. What is due is
sent once, and only what answers lead to is sent after it. An address that is too long keeps it from
being sent, and then the call fails as for a provider that does. A file of up to 2 ^ 53 octets is
refused for its size exactly when it has more of them than the mebibytes of the settings. -/
theorem call_sends_once_or_never {settings : Settings} {api upload : Url}
    (usable : Remote.Usable (.ofSettings settings) api upload) (rpc : Rpc)
    (request : rpc.Request) :
    (∃ first?, Sends (.ofSettings settings) api upload rpc request first? ∧
      ∀ (remote : Remote) (took : Nat → Chain.Reading) (state : State Remote.State),
        remote.config = .ofSettings settings → Reached state →
          let called := call settings remote.storage took rpc request state
          Http.Sent remote.provider state.storage.sent first? called.state.storage.sent ∧
            (∀ code, refusalCode? (.ofSettings settings) rpc request = some code →
              EndsIn code called.ending) ∧
            ∀ first, first? = some first → Http.longestAddress < first.url.text.length →
              EndsIn .unknown called.ending) ∧
    ∀ file : Upload, file.size ≤ Nat.pow 2 53 →
      (Remote.isTooLarge (.ofSettings settings) file = true ↔
        settings.maxFileSizeMb.toNat * Upload.mebibyte < file.size) := by
  refine ⟨?_, fun file hl => Remote.isTooLarge_iff (.ofSettings settings) hl⟩
  have he : ∀ first : Http.Request, none ≠ some first :=
    fun first h => Option.some_ne_none first h.symm
  rcases refusalCode_cases usable.apiTakes rpc request with ⟨fault, hr, hc⟩ | ⟨ha, hc⟩
  · have hn : refusalCode? (.ofSettings settings) rpc request ≠ none := by
      rw [hc]
      exact Option.some_ne_none _
    refine ⟨none, sends_none (.inr hn), fun remote took state hg reached => ?_⟩
    obtain ⟨hf, hs⟩ := call_refused settings took reached (hg ▸ hr)
    refine ⟨?_, fun code h => ?_, fun first h => absurd h (he first)⟩
    · rw [hs]
      exact .nothing
    · obtain rfl := Option.some.inj (hc.symm.trans h)
      exact ⟨_, hf, rfl⟩
  · have hn : ∀ code, refusalCode? (.ofSettings settings) rpc request ≠ some code := by
      intro code h
      rw [hc] at h
      cases h
    by_cases hu : rpc = .getUploadAuth
    · subst hu
      refine ⟨none, sends_none (.inl rfl), fun remote took state hg reached => ?_⟩
      obtain ⟨hs, _⟩ := call_accepted settings remote took reached ha.1
      refine ⟨?_, fun code h => absurd h (hn code), fun first h => absurd h (he first)⟩
      rw [hs]
      exact .nothing
    · obtain ⟨inquiry, hi⟩ := Remote.exists_inquiry (.ofSettings settings)
        (operationOf_ne_credential hu request)
      obtain ⟨first, ready⟩ := Remote.exists_ready usable ha.2 hi
      refine ⟨some first, sends_some hu hc ready.own, fun remote took state hg reached => ?_⟩
      -- The request was found from the settings alone, so it is the same for every provider.
      rw [← hg] at ready hi ha
      obtain ⟨hm, hw⟩ := call_asks settings remote took reached ha hi ready
      refine ⟨hm, fun code h => absurd h (hn code), fun other ho long => ?_⟩
      rw [← Option.some.inj ho] at long
      exact hw long

/-- Settings whose storage is set up as the one with the silent provider. -/
theorem silent_config :
    StorageConfig.ofSettings (countingSettings true) = Remote.silentRemote.config := by
  decide

/-- The base addresses of the silent provider can be used. -/
theorem silent_usable :
    Remote.Usable Remote.silentRemote.config Remote.silentBase Remote.silentBase := by
  have ht : Url.TakesPath Remote.silentRemote.config.apiBaseUrl Remote.silentBase := by
    refine ⟨rfl, .inl rfl, rfl, rfl, ?_⟩
    intro char hc
    obtain rfl : ']' = char := Option.some.inj hc
    decide
  exact ⟨ht, ht, by decide, by decide⟩

/-- A deletion is sent once to a provider that keeps silent. -/
theorem deletion_sends_once :
    Remote.Usable (.ofSettings (countingSettings true)) Remote.silentBase Remote.silentBase ∧
      ∃ first : Http.Request, first.method = .delete ∧
        first.url.text = "http://[::1]/v1/files/a%2Fb" ∧
        (call (countingSettings true) Remote.silentRemote.storage (fun _ => 7) .deleteFile
          ⟨"a/b"⟩ (.initial ⟨[], []⟩)).state.storage.sent = [first] := by
  have hu : Remote.Usable (.ofSettings (countingSettings true)) Remote.silentBase
      Remote.silentBase := by
    rw [silent_config]
    exact silent_usable
  have hb : Remote.Unbroken "a/b" := by
    have hall : "a/b".toList.all (fun char => !Url.isBreak char) = true := rfl
    intro char hc
    exact (Bool.not_eq_true' _).mp (List.all_eq_true.mp hall char hc)
  have hr : refusalCode? (.ofSettings (countingSettings true)) .deleteFile ⟨"a/b"⟩ = none := by
    decide
  obtain ⟨⟨first?, sends, hc⟩, _⟩ := call_sends_once_or_never hu .deleteFile ⟨"a/b"⟩
  obtain ⟨hs, _, _⟩ := hc Remote.silentRemote (fun _ => 7) (.initial ⟨[], []⟩)
    silent_config.symm (.initial [])
  cases first? with
  | none => exact absurd (sends.none_iff.mp rfl) (by rw [hr]; decide)
  | some first =>
    have ho := sends.own first rfl
    have ht : first.url.text = "http://[::1]/v1/files/a%2Fb" := by
      rw [ho.place hb]
      decide
    refine ⟨hu, first, ho.method, ht, ?_⟩
    generalize (call (countingSettings true) Remote.silentRemote.storage (fun _ => 7) .deleteFile
      ⟨"a/b"⟩ (.initial ⟨[], []⟩)).state.storage.sent = sent at hs
    cases hs with
    | withheld long =>
      rw [ht] at long
      exact absurd long (by decide)
    | once fits later =>
      cases later with
      | done => rfl
      | next answered => cases answered

/-- Nothing is sent to delete a file whose identifier is too long, though nobody refuses to. -/
theorem deletion_withheld {settings : Settings} {api upload : Url} {remote : Remote}
    (usable : Remote.Usable remote.config api upload) (took : Nat → Chain.Reading)
    {state : State Remote.State} (reached : Reached state) {fileId : String}
    (hb : Remote.Unbroken fileId) (long : Http.longestAddress < fileId.length) :
    refusalCode? remote.config .deleteFile ⟨fileId⟩ = none ∧
      let called := call settings remote.storage took .deleteFile ⟨fileId⟩ state
      called.state.storage.sent = state.storage.sent ∧ EndsIn .unknown called.ending := by
  have hn : ∀ text : String, text.length ≤ 2 → fileId ≠ text := by
    rintro text hl rfl
    rw [Http.longestAddress] at long
    omega
  have hc : fileCode? fileId = none := if_neg (by
    simp only [hn "" (by decide), hn "." (by decide), hn ".." (by decide), or_self,
      not_false_iff])
  refine ⟨hc, ?_⟩
  have ha : Accepted remote.config .deleteFile ⟨fileId⟩ := by
    rcases refusalCode_cases usable.apiTakes .deleteFile ⟨fileId⟩ with ⟨fault, _, hf⟩ | ⟨ha, _⟩
    · cases hc.symm.trans hf
    · exact ha
  obtain ⟨first, ready⟩ := Remote.exists_ready usable ha.2 rfl
  have hl : Http.longestAddress < first.url.text.length := by
    rw [ready.own.place hb]
    refine Nat.lt_of_lt_of_le long (Nat.le_trans (Url.length_le_wholeSegment hb) ?_)
    exact usable.length_le (by simp only [List.mem_cons, true_or, or_true])
  obtain ⟨hs, he⟩ := call_asks settings remote took reached ha rfl ready
  refine ⟨?_, he hl⟩
  generalize (call settings remote.storage took .deleteFile ⟨fileId⟩ state).state.storage.sent =
    sent at hs
  cases hs with
  | withheld => rfl
  | once fits later => exact absurd hl (Nat.not_lt_of_le fits)

/-- Nothing is sent to delete a file whose identifier has one letter more than any address. -/
theorem endless_id_sends_nothing :
    ∃ fileId : String, fileId = String.ofList (List.replicate 65535 'a') ∧
      Remote.Usable (.ofSettings (countingSettings true)) Remote.silentBase Remote.silentBase ∧
      refusalCode? (.ofSettings (countingSettings true)) .deleteFile ⟨fileId⟩ = none ∧
      let called := call (countingSettings true) Remote.silentRemote.storage (fun _ => 7)
        .deleteFile ⟨fileId⟩ (.initial ⟨[], []⟩)
      called.state.storage.sent = [] ∧ EndsIn .unknown called.ending := by
  refine ⟨_, rfl, ?_⟩
  have hb : Remote.Unbroken (String.ofList (List.replicate 65535 'a')) := by
    intro char hc
    rw [String.toList_ofList] at hc
    rw [List.eq_of_mem_replicate hc]
    rfl
  have hl : Http.longestAddress < (String.ofList (List.replicate 65535 'a')).length := by
    rw [String.length_ofList, List.length_replicate]
    decide
  rw [silent_config]
  exact ⟨silent_usable, deletion_withheld silent_usable (fun _ => 7) (.initial []) hb hl⟩

end Service

end MediaGateway
