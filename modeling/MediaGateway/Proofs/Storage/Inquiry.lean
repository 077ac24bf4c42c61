import MediaGateway.Proofs.Http.Exchange
import MediaGateway.Storage.Remote

/-!
# What asking the provider comes to

A request that is withheld fails without a word to the provider. A request that
is ready goes out first, and an answer that promises a result decides the end.
-/

namespace MediaGateway.Storage.Remote

variable {α : Type}

/-- A withheld request fails, and nothing changes. -/
theorem ask_withheld (remote : Remote) {inquiry : Inquiry α} {fault : Fault}
    (h : inquiry.request = .withheld fault) (state : State) :
    (remote.ask inquiry state).outcome = .failed fault ∧
      (remote.ask inquiry state).state = state := by
  simp only [ask, Inquiry.run, h, and_self]

/-- What is sent for a request that is ready. -/
theorem ask_ready (remote : Remote) {inquiry : Inquiry α} {request : Http.Request}
    (h : inquiry.request = .ready request) (state : State) :
    (remote.ask inquiry state).state.sent =
      (Http.send remote.provider request state.sent).sent := by
  simp only [ask, Inquiry.run, h]

/-- Everything that is sent for an inquiry hands over what its request does, if that is ready. -/
theorem ask_hands (remote : Remote) {inquiry : Inquiry α} {method : Http.Method} {body : Http.Body}
    (h : ∀ request, inquiry.request = .ready request → request.Hands method body) (state : State) :
    ∃ more, (remote.ask inquiry state).state.sent = state.sent ++ more ∧
      ∀ later ∈ more, later.Hands method body := by
  have kept : (remote.ask inquiry state).state.sent = state.sent →
      ∃ more, (remote.ask inquiry state).state.sent = state.sent ++ more ∧
        ∀ later ∈ more, later.Hands method body := fun same =>
    ⟨[], by rw [same, List.append_nil], fun later member => absurd member List.not_mem_nil⟩
  cases hq : inquiry.request with
  | withheld fault => exact kept (by rw [(ask_withheld remote hq state).2])
  | unsendable problem => exact kept (by simp only [ask, Inquiry.run, hq])
  | ready request =>
    obtain ⟨more, hm, hands⟩ := Http.send_hands remote.provider request state.sent
    rw [ask_ready remote hq]
    exact ⟨more, hm, fun later member => (h request hq).trans (hands later member)⟩

/-- The first that is told of an inquiry is its beginning. -/
theorem head_events_ask (remote : Remote) (inquiry : Inquiry α) (state : State) :
    (remote.ask inquiry state).events.head? = some inquiry.started := by
  cases hq : inquiry.request <;> simp only [ask, Inquiry.run, hq, List.head?_cons]

/-- A request to an address with a host is ready. -/
theorem textRequest_hosted (config : StorageConfig) (method : Http.Method) {address : String}
    {place : Url} (h : Url.read address = .ok place) (hosted : place.hasHost = true)
    (body : Http.Body) :
    textRequest config method address [] body =
      .ready ⟨method, place, credential config, body⟩ := by
  simp only [textRequest, h, hosted, if_true]

/-- A request to an address given as text carries the body that it is given. -/
theorem body_of_textRequest {config : StorageConfig} {method : Http.Method} {address : String}
    {pairs : List Url.Form.Pair} {body : Http.Body} {request : Http.Request}
    (h : textRequest config method address pairs body = .ready request) :
    request.method = method ∧ request.body = body := by
  rw [textRequest] at h
  split at h
  · cases h
  · split at h
    · cases h
      exact ⟨rfl, rfl⟩
    · cases h

/-- A request about a file with an address is ready. -/
theorem fileRequest_found {config : StorageConfig} {fileId : String} {about : List String}
    {place : Url} (h : fileAddress config fileId about = .ok place) (method : Http.Method)
    (body : Http.Body) :
    fileRequest config method fileId about body =
      .ready ⟨method, place, credential config, body⟩ := by
  rw [fileRequest, h]

/-- A request about one file carries the body that it is given. -/
theorem body_of_fileRequest {config : StorageConfig} {method : Http.Method} {fileId : String}
    {about : List String} {body : Http.Body} {request : Http.Request}
    (h : fileRequest config method fileId about body = .ready request) :
    request.method = method ∧ request.body = body := by
  rw [fileRequest] at h
  split at h
  · cases h
  · cases h
    exact ⟨rfl, rfl⟩

/-- An answer that promises a result, where the operation is about no single file, is taken for
the result that it holds. -/
theorem ask_answered (remote : Remote) {inquiry : Inquiry α} {request : Http.Request}
    (h : inquiry.request = .ready request) (state : State) {answer : Http.Answer}
    {sent : List Http.Request}
    (hs : Http.send remote.provider request state.sent = ⟨.ok answer, sent⟩)
    (hn : inquiry.subject = none) (ha : inquiry.accepts answer.status = true) {result : α}
    (hr : inquiry.result answer = .ok result) :
    remote.ask inquiry state =
      ⟨.done result, [inquiry.started, inquiry.finished result], { state with sent := sent }⟩ := by
  simp only [ask, Inquiry.run, h, hs, Inquiry.answered, hn, ha, if_true, Inquiry.accepted, hr]

/-- A request to an address that can be sent to is ready. -/
theorem textRequest_ready (config : StorageConfig) (method : Http.Method) {address : String}
    {place : Url} (h : Url.read address = .ok place) (hs : Http.isSendable place = true)
    (body : Http.Body) :
    textRequest config method address [] body =
      .ready ⟨method, place, credential config, body⟩ := by
  have hh : place.hasHost = true := by
    simp only [Http.isSendable, Http.isWebAddress, Bool.and_eq_true] at hs
    exact hs.1.1.2
  exact textRequest_hosted config method h hh body

end MediaGateway.Storage.Remote
