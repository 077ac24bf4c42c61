import MediaGateway.Proofs.Chain.CallLog
import MediaGateway.Proofs.Service.History
import MediaGateway.Proofs.Storage.OperationLog

/-!
# What is told of a call

The log of calls tells first that a call begins and last how it ends. In between the
handler tells that the request is acceptable, before the storage tells anything, and
that the call failed, after the storage has told everything. A summary of the method
comes behind all that, when one is due.
-/

namespace MediaGateway

/-- The events that come from one place, in order. -/
def Event.comingFrom (source : Source) (events : List Event) : List Event :=
  events.filter fun event => event.source = source

namespace Event

/-- Events of one list come before those of the next, wherever they come from. -/
theorem comingFrom_append (source : Source) (front back : List Event) :
    Event.comingFrom source (front ++ back) =
      Event.comingFrom source front ++ Event.comingFrom source back :=
  List.filter_append front back

/-- Events that all come from one place are kept for that place, and for no other one. -/
theorem comingFrom_of {source place : Source} {events : List Event}
    (h : ∀ event ∈ events, event.source = place) :
    Event.comingFrom source events = if place = source then events else [] := by
  split
  next hs =>
    subst hs
    exact List.filter_eq_self.mpr fun event member => decide_eq_true (h event member)
  next hs =>
    refine List.filter_eq_nil_iff.mpr fun event member => ?_
    rw [h event member, decide_eq_true_eq]
    exact hs

end Event

namespace Metrics

/-- What the count tells of one more call of a method: a summary with the number of the call when
that is a multiple of a hundred, and nothing otherwise. -/
def Sums (metrics : Metrics) (method : String) (told : List Event) : Prop :=
  let number := metrics.requestCount method + 1
  if number % 100 = 0 then
    ∃ averageMs, told = [⟨.info, .metrics, "Method metrics",
      [("method", .text method), ("total_requests", .integer number),
        ("avg_duration_ms", .real averageMs)]⟩]
  else told = []

/-- Counting a reading tells a summary exactly when one is due. -/
theorem Timed.sums_record {metrics : Metrics} (timed : metrics.Timed) (method : String)
    (reading : Chain.Reading) :
    metrics.Sums method (metrics.record method reading.span).2.events := by
  rw [Sums]
  obtain ⟨undue, h⟩ | ⟨averageMs, due, h⟩ := timed.record_cases method reading
  · rw [if_neg undue, h]
    rfl
  · rw [if_pos due, h]
    exact ⟨averageMs, rfl⟩

/-- Summaries are told by the count of calls, one at most of a call. -/
theorem Sums.spec {metrics : Metrics} {method : String} {told : List Event}
    (h : metrics.Sums method told) :
    (∀ event ∈ told, event.source = .metrics) ∧ told.length ≤ 1 := by
  rw [Sums] at h
  split at h
  · obtain ⟨averageMs, rfl⟩ := h
    exact ⟨List.forall_mem_singleton.mpr rfl, Nat.le_refl 1⟩
  · rw [h]
    exact ⟨fun event member => absurd member List.not_mem_nil, Nat.zero_le 1⟩

end Metrics

namespace Chain

variable {σ ρ : Type}

/-- The events of steps that are all events. -/
theorem events_map_event (told : List Event) : events (told.map .event) = told := by
  induction told with
  | nil => rfl
  | cons event told ih =>
    have hc : events ((event :: told).map .event) = event :: events (told.map .event) := rfl
    rw [hc, ih]

/-- The events of steps that are events between two others. -/
theorem events_bracket (first last : Event) (told : List Event) :
    events (.event first :: (told.map .event ++ [.event last])) = first :: (told ++ [last]) := by
  have hm : (Step.event first :: (told.map .event ++ [.event last])) =
      (first :: (told ++ [last])).map .event := by
    rw [List.map_cons, List.map_append, List.map_singleton]
  rw [hm, events_map_event]

/-- What the count of calls tells of one more call of a method, if calls are counted. -/
def Counted (counted : Bool) (metrics : Metrics) (method : String) (told : List Event) : Prop :=
  if counted then metrics.Sums method told else told = []

/-- The count tells a summary behind the handler when one is due. -/
theorem steps_counting (took : Nat → Reading) {handler : Handler σ ρ} (counted : Bool)
    (call : CallInfo) {metrics : Metrics} (timed : metrics.Timed) {state after : σ}
    {outcome : Outcome ρ} {steps : List Step} (h : handler state = (outcome, steps, after)) :
    ∃ summaries, Counted counted metrics call.method summaries ∧
      (runMembers took handler (if counted then [.metrics] else []) call metrics state).steps =
        steps ++ summaries.map .event := by
  cases counted with
  | false =>
    refine ⟨[], rfl, ?_⟩
    simp only [runMembers, h, Bool.false_eq_true, if_false, List.map_nil, List.append_nil]
  | true =>
    refine ⟨_, timed.sums_record call.method (took 0), ?_⟩
    simp only [runMembers, h, if_true, List.length_nil]

/-- A result that the handler returns is passed outwards by the guard and by the count; behind what
the handler tells stands a summary when one is due. -/
theorem runMembers_guarded (took : Nat → Reading) {handler : Handler σ ρ} (counted : Bool)
    (call : CallInfo) {metrics : Metrics} (timed : metrics.Timed) {state after : σ}
    {result : Result ρ} {steps : List Step}
    (h : handler state = (.returned result, steps, after)) :
    let ran := runMembers took handler
      (.errorHandling :: if counted then [.metrics] else []) call metrics state
    ran.outcome = .returned result ∧ ∃ summaries,
      Counted counted metrics call.method summaries ∧
        ran.steps = steps ++ summaries.map .event := by
  have hb : ∀ member ∈ (if counted then [.metrics] else [] : List (Interceptor ρ)),
      member.IsBuiltIn := by
    cases counted with
    | false => exact fun member hm => absurd hm List.not_mem_nil
    | true => exact List.forall_mem_singleton.mpr trivial
  have hr : (handler state).1 = .returned result := by rw [h]
  have ho := (runMembers_builtIn took hb call timed hr).1
  obtain ⟨summaries, hc, hs⟩ := steps_counting took counted call timed h
  refine ⟨?_, summaries, hc, ?_⟩
  · simp only [runMembers, ho]
  · simp only [runMembers, ho, hs]

end Chain

namespace Service

open Api (Rpc)
open Grpc (Code Status)
open Storage (Remote)

variable {σ : Type}

/-- A storage that keeps to itself: each of its operations has a result or fails, and whatever is
told of an operation comes from the storage. -/
structure Discreet (storage : Storage σ) : Prop where
  /-- No operation panics. -/
  ends : ∀ operation state,
    (∃ result, (storage operation state).outcome = .done result) ∨
      ∃ fault, (storage operation state).outcome = .failed fault
  /-- The events are the storage's own. -/
  source : ∀ operation state, ∀ event ∈ (storage operation state).events, event.source = .storage

/-- The storage that asks the provider keeps to itself. -/
theorem discreet_remote (remote : Remote) : Discreet remote.storage := by
  refine ⟨fun operation state => ?_, remote.storage_events_source⟩
  obtain ⟨result, hr⟩ | ⟨fault, hr, _⟩ := remote.storage_ends operation state
  · exact .inl ⟨result, hr⟩
  · exact .inr ⟨fault, hr⟩

/-- What is told on behalf of a handler. -/
structure Work where
  /-- That the request is acceptable. -/
  accepted : List Event
  /-- What the storage tells. -/
  stored : List Event
  /-- That the call failed. -/
  failed : List Event

/-- Everything that is told on behalf of a handler, in order. -/
def Work.events (work : Work) : List Event := work.accepted ++ work.stored ++ work.failed

/-- The kinds that are told of failures, each with the code that it stands for. -/
def kindCodes : List (String × Code) :=
  [("NotFound", .notFound), ("InvalidArgument", .invalidArgument),
    ("SizeExceeded", .resourceExhausted), ("UpstreamError", .unknown),
    ("BatchFailure", .failedPrecondition), ("Internal", .internal)]

/-- Every kind of failure is told with a name that stands for its code. -/
theorem mem_kindCodes (kind : Fault.Kind) : (kind.name, Code.ofKind kind) ∈ kindCodes := by
  cases kind <;> decide

/-- What is told on behalf of a handler that answers a request. Once, that the request is
acceptable, and what the storage tells; neither when there is an objection. Once, that the call
failed, when it is answered with a status; the failure that is told has the message of the status,
and a kind that its code stands for. -/
structure Work.Fits (work : Work) (storage : Storage σ) (rpc : Rpc) (request : rpc.Request)
    (state : σ) (answer : Except Status rpc.Response) : Prop where
  /-- Nothing comes before an objection. -/
  objected : objection? rpc request ≠ none → work.accepted = [] ∧ work.stored = []
  /-- An acceptable request is told before the storage tells anything. -/
  accepted : objection? rpc request = none →
    (∃ fields, work.accepted =
      [⟨.info, .handlers, "Processing " ++ rpc.name ++ " request", fields⟩]) ∧
      work.stored = (storage (operationOf rpc request) state).events
  /-- No failure is told of a call that went well. -/
  succeeded : ∀ response, answer = .ok response → work.failed = []
  /-- The failure of a call is told once. -/
  failed : ∀ status, answer = .error status → ∃ kind, (kind, status.code) ∈ kindCodes ∧
    work.failed = [⟨.error, .handlers, rpc.name ++ " failed",
      [("error", .text status.message), ("kind", .text kind)] ++ subjectFields rpc request⟩]

/-- A status fits the failure that is told. -/
theorem failed_faultStatus {rpc : Rpc} {request : rpc.Request} {fault : Fault} (status : Status)
    (h : (Except.error (faultStatus rpc fault) : Except Status rpc.Response) = .error status) :
    ∃ kind, (kind, status.code) ∈ kindCodes ∧
      [failedEvent rpc request fault] = [⟨.error, .handlers, rpc.name ++ " failed",
        [("error", .text status.message), ("kind", .text kind)] ++
          subjectFields rpc request⟩] := by
  obtain rfl := Except.error.inj h
  exact ⟨fault.kind.name, mem_kindCodes fault.kind, rfl⟩

/-- A handler answers, and what is told on its behalf fits the answer. -/
theorem handler_works (publicKey : String) {storage : Storage σ} (discreet : Discreet storage)
    (rpc : Rpc) (request : rpc.Request) (state : σ) :
    ∃ (answer : Except Status rpc.Response) (work : Work) (after : σ),
      handler publicKey storage rpc request state =
        (.returned (answer.map .response), work.events.map .event, after) ∧
      work.Fits storage rpc request state answer := by
  cases ho : objection? rpc request with
  | some fault =>
    have hs : objection? rpc request ≠ none := by
      rw [ho]
      exact Option.some_ne_none fault
    refine ⟨.error (faultStatus rpc fault), ⟨[], [], [failedEvent rpc request fault]⟩, state, ?_,
      fun _ => ⟨rfl, rfl⟩, fun hn => absurd hn hs, fun _ h => ?_, failed_faultStatus⟩
    · rw [handler_of_objection publicKey storage ho]
      rfl
    · cases h
  | none =>
    obtain ⟨result, hr⟩ | ⟨fault, hr⟩ := discreet.ends (operationOf rpc request) state
    · obtain ⟨fields, response, _, hh⟩ := handler_of_done publicKey storage ho state hr
      refine ⟨.ok response, ⟨[startedEvent rpc fields], _, []⟩,
        (storage (operationOf rpc request) state).state, ?_, fun h => absurd ho h,
        fun _ => ⟨⟨fields, rfl⟩, rfl⟩, fun _ _ => rfl, fun _ h => ?_⟩
      · simp only [hh, Work.events, told, List.append_nil, List.singleton_append, List.map_cons]
        rfl
      · cases h
    · obtain ⟨fields, hh⟩ := handler_of_failed publicKey storage ho state hr
      refine ⟨.error (faultStatus rpc fault),
        ⟨[startedEvent rpc fields], _, [failedEvent rpc request fault]⟩,
        (storage (operationOf rpc request) state).state, ?_,
        fun h => absurd ho h, fun _ => ⟨⟨fields, rfl⟩, rfl⟩, fun _ h => ?_, failed_faultStatus⟩
      · simp only [hh, Work.events, told, List.singleton_append, List.map_cons, List.map_append,
          List.map_nil]
        rfl
      · cases h

/-- Where the events come from that are told on behalf of a handler. -/
theorem Work.Fits.sources {work : Work} {storage : Storage σ} (discreet : Discreet storage)
    {rpc : Rpc} {request : rpc.Request} {state : σ} {answer : Except Status rpc.Response}
    (h : work.Fits storage rpc request state answer) :
    (∀ event ∈ work.accepted, event.source = .handlers) ∧
      (∀ event ∈ work.stored, event.source = .storage) ∧
      ∀ event ∈ work.failed, event.source = .handlers := by
  have hn : ∀ {source : Source}, ∀ event ∈ ([] : List Event), event.source = source :=
    fun event member => absurd member List.not_mem_nil
  refine ⟨?_, ?_, ?_⟩
  · by_cases ho : objection? rpc request = none
    · obtain ⟨⟨fields, ha⟩, _⟩ := h.accepted ho
      rw [ha]
      exact List.forall_mem_singleton.mpr rfl
    · rw [(h.objected ho).1]
      exact hn
  · by_cases ho : objection? rpc request = none
    · rw [(h.accepted ho).2]
      exact discreet.source _ _
    · rw [(h.objected ho).2]
      exact hn
  · cases answer with
    | ok response =>
      rw [h.succeeded response rfl]
      exact hn
    | error status =>
      obtain ⟨kind, _, hf⟩ := h.failed status rfl
      rw [hf]
      exact List.forall_mem_singleton.mpr rfl

/-- The names of a call of the service. -/
def callInfo (rpc : Rpc) : Chain.CallInfo := ⟨rpc.path, rpc.name⟩

/-- The path of a call ends in its short name. -/
theorem callInfo_eq (rpc : Rpc) : Chain.CallInfo.ofPath rpc.path = callInfo rpc := by
  cases rpc <;> decide

/-- Whatever the count of calls tells of a call comes from it, and is one summary at most. -/
theorem counted_spec {counted : Bool} {metrics : Metrics} {method : String} {told : List Event}
    (h : Chain.Counted counted metrics method told) :
    (∀ event ∈ told, event.source = .metrics) ∧ told.length ≤ 1 := by
  cases counted with
  | true => exact Metrics.Sums.spec h
  | false =>
    rw [show told = [] from h]
    exact ⟨fun event member => absurd member List.not_mem_nil, Nat.zero_le 1⟩

/-- The milliseconds that a call takes, by the stopwatch of the log. Inside the log stand the guard
and perhaps the count. -/
def lasted (settings : Settings) (took : Nat → Chain.Reading) : Binary64 :=
  (took (if settings.metricsEnabled then 2 else 1)).span.milliseconds

/-- What is told of a call from its first event to its last. -/
structure Bracketed (settings : Settings) (storage : Storage σ) (took : Nat → Chain.Reading)
    (rpc : Rpc) (request : rpc.Request) (state : State σ) (answer : Except Status rpc.Response)
    (events : List Event) (work : Work) (summaries : List Event) (ended : Event) : Prop where
  /-- All that is told, in order. -/
  order : events = Chain.begunEvent (callInfo rpc) :: (work.events ++ summaries ++ [ended])
  /-- The handler's part fits the answer. -/
  fits : work.Fits storage rpc request state.storage answer
  /-- The last event tells how the call ends. -/
  tells : Chain.Tells (callInfo rpc) (lasted settings took) ended (.answered answer)
  /-- It tells of a completion exactly when there is a response. -/
  completed_iff : ended.message = "gRPC request completed" ↔ ∃ response, answer = .ok response
  /-- The log of calls tells nothing else. -/
  callLog : Event.comingFrom .callLog events = [Chain.begunEvent (callInfo rpc), ended]
  /-- The handler tells nothing but its part. -/
  handlers : Event.comingFrom .handlers events = work.accepted ++ work.failed
  /-- The storage tells nothing but its part. -/
  stored : Event.comingFrom .storage events = work.stored
  /-- The count of calls tells a summary at most, and only when one is due. -/
  counted : Event.comingFrom .metrics events = summaries ∧ summaries.length ≤ 1 ∧
    Chain.Counted settings.metricsEnabled state.metrics rpc.name summaries

/-- The event that tells how a call ends comes from the log of calls. -/
theorem tells_source {ρ : Type} {call : Chain.CallInfo} {lasted : Binary64} {ended : Event}
    {answer : Except Status ρ} (h : Chain.Tells call lasted ended (.answered answer)) :
    ended.source = .callLog := by
  cases answer with
  | ok response =>
    rw [show ended = _ from h]
    rfl
  | error status =>
    rw [show ended = _ from h]
    rfl

/-- A completion is told exactly of a response. -/
theorem tells_completed_iff {ρ : Type} {call : Chain.CallInfo} {lasted : Binary64} {ended : Event}
    {answer : Except Status ρ} (h : Chain.Tells call lasted ended (.answered answer)) :
    ended.message = "gRPC request completed" ↔ ∃ response, answer = .ok response := by
  cases answer with
  | ok response =>
    rw [show ended = _ from h]
    exact iff_of_true rfl ⟨response, rfl⟩
  | error status =>
    rw [show ended = _ from h]
    have hn : (Chain.failedEvent call lasted status).message ≠ "gRPC request completed" := by
      rw [show (Chain.failedEvent call lasted status).message = "gRPC request failed" from rfl]
      decide
    exact iff_of_false hn fun ⟨_, he⟩ => by cases he

/-- Events in the order of a call are told apart by where they come from. -/
theorem bracketed_of_order {settings : Settings} {storage : Storage σ}
    (discreet : Discreet storage) {took : Nat → Chain.Reading} {rpc : Rpc} {request : rpc.Request}
    {state : State σ} {answer : Except Status rpc.Response} {work : Work} {summaries : List Event}
    {ended : Event} (fits : work.Fits storage rpc request state.storage answer)
    (counted : Chain.Counted settings.metricsEnabled state.metrics rpc.name summaries)
    (tells : Chain.Tells (callInfo rpc) (lasted settings took) ended (.answered answer)) :
    Bracketed settings storage took rpc request state answer
      (Chain.begunEvent (callInfo rpc) :: (work.events ++ summaries ++ [ended])) work summaries
      ended := by
  obtain ⟨ha, hs, hf⟩ := fits.sources discreet
  obtain ⟨hm, hl⟩ := counted_spec counted
  have he : ∀ event ∈ [ended], event.source = .callLog :=
    List.forall_mem_singleton.mpr (tells_source tells)
  have hb : ∀ event ∈ [Chain.begunEvent (callInfo rpc)], event.source = .callLog :=
    List.forall_mem_singleton.mpr rfl
  have hp : ∀ source, Event.comingFrom source (Chain.begunEvent (callInfo rpc) ::
      (work.events ++ summaries ++ [ended])) =
      (if .callLog = source then [Chain.begunEvent (callInfo rpc)] else []) ++
        ((if .handlers = source then work.accepted else []) ++
          (if .storage = source then work.stored else []) ++
          (if .handlers = source then work.failed else []) ++
          (if .metrics = source then summaries else []) ++
          (if .callLog = source then [ended] else [])) := by
    intro source
    -- each part comes from one place as a whole, so it is kept or dropped as a whole
    rw [← List.singleton_append, Work.events]
    simp only [Event.comingFrom_append, Event.comingFrom_of ha, Event.comingFrom_of hs,
      Event.comingFrom_of hf, Event.comingFrom_of hm, Event.comingFrom_of he,
      Event.comingFrom_of hb]
  refine ⟨rfl, fits, tells, tells_completed_iff tells, ?_, ?_, ?_, ?_, hl, counted⟩
  · rw [hp]
    rfl
  · simp only [hp, reduceCtorEq, if_true, if_false, List.nil_append, List.append_nil]
  · simp only [hp, reduceCtorEq, if_true, if_false, List.nil_append, List.append_nil]
  · simp only [hp, reduceCtorEq, if_true, if_false, List.nil_append, List.append_nil]

/-- A call whose handler answers is told from its first event to its last. -/
theorem call_told {settings : Settings} {storage : Storage σ} (discreet : Discreet storage)
    (took : Nat → Chain.Reading) {rpc : Rpc} {request : rpc.Request} {state : State σ}
    (left : Chain.LeftBehind state.metrics) {answer : Except Status rpc.Response} {work : Work}
    {after : σ} (h : handler settings.ikPublicKey storage rpc request state.storage =
      (.returned (answer.map .response), work.events.map .event, after))
    (fits : work.Fits storage rpc request state.storage answer) :
    ∃ summaries ended, Bracketed settings storage took rpc request state answer
      (call settings storage took rpc request state).events work summaries ended := by
  obtain ⟨ho, summaries, counted, hs⟩ := Chain.runMembers_guarded took settings.metricsEnabled
    (.ofPath rpc.path) left.timed h
  have hr : (call settings storage took rpc request state).events = Chain.events
      (Chain.run took (members settings) rpc.path
        (handler settings.ikPublicKey storage rpc request) state.metrics state.storage).steps :=
    rfl
  have hm : (members settings : List (Chain.Interceptor rpc.Response)) =
      .logging :: (.errorHandling :: if settings.metricsEnabled then [.metrics] else []) := rfl
  have hl : (took (List.length (.errorHandling ::
      if settings.metricsEnabled then [.metrics] else [] :
        List (Chain.Interceptor rpc.Response)))).span.milliseconds = lasted settings took := by
    rw [lasted]
    cases settings.metricsEnabled <;> rfl
  have he : (call settings storage took rpc request state).events =
      Chain.begunEvent (callInfo rpc) :: (work.events ++ summaries ++
        [Chain.endedEvent (callInfo rpc) (lasted settings took)
          (answer.map Chain.Payload.response)]) := by
    rw [hr, hm, Chain.run_logging took _ ho]
    dsimp only
    rw [hs, hl, callInfo_eq, ← List.map_append]
    exact Chain.events_bracket _ _ _
  rw [callInfo_eq] at counted
  rw [he]
  refine ⟨summaries, _, bracketed_of_order discreet fits counted ?_⟩
  cases answer with
  | ok response => rfl
  | error status => rfl

/-- The storage tells nothing of an acceptable call but what it tells of its operation. -/
theorem call_stored (settings : Settings) {storage : Storage σ} (discreet : Discreet storage)
    (took : Nat → Chain.Reading) {rpc : Rpc} {request : rpc.Request} {state : State σ}
    (left : Chain.LeftBehind state.metrics) (h : objection? rpc request = none) :
    Event.comingFrom .storage (call settings storage took rpc request state).events =
      (storage (operationOf rpc request) state.storage).events := by
  obtain ⟨answer, work, after, hh, fits⟩ :=
    handler_works settings.ikPublicKey discreet rpc request state.storage
  obtain ⟨summaries, ended, bracketed⟩ := call_told discreet took left hh fits
  rw [bracketed.stored]
  exact (fits.accepted h).2

/-- The log of a call is bracketed. It begins with the beginning of the call and ends with the one
event that tells how the call ended. In between stands what is told on behalf of the handler: that
an acceptable request is processed, what the storage tells, and the failure of a call that is
answered with a status. A summary of the method comes last, if one is due. -/
theorem call_bracketed (settings : Settings) {storage : Storage σ} (discreet : Discreet storage)
    (took : Nat → Chain.Reading) (rpc : Rpc) (request : rpc.Request) {state : State σ}
    (left : Chain.LeftBehind state.metrics) :
    ∃ answer work summaries ended, (call settings storage took rpc request state).ending =
        .answered answer ∧
      Bracketed settings storage took rpc request state answer
        (call settings storage took rpc request state).events work summaries ended := by
  obtain ⟨answer, work, after, hh, fits⟩ :=
    handler_works settings.ikPublicKey discreet rpc request state.storage
  have hr : (handler settings.ikPublicKey storage rpc request state.storage).1 =
      .returned (answer.map .response) := by rw [hh]
  have hc := (Chain.run_builtIn took (members_builtIn settings) rpc.path left hr).1
  obtain ⟨summaries, ended, bracketed⟩ := call_told discreet took left hh fits
  exact ⟨answer, work, summaries, ended, hc, bracketed⟩

/-- A deletion of a file that the provider does not know. It takes two and a half milliseconds. -/
def goneDeletion : Called Remote.State Api.DeleteFileResponse :=
  call (countingSettings true) Remote.goneRemote.storage (fun _ => 2500000) .deleteFile ⟨"a"⟩
    (.initial ⟨[], []⟩)

/-- The log of that deletion: between the first event and the last one, the handler tells of the
request before the storage tells anything, and of the failure behind that. -/
theorem deletion_bracketed :
    Discreet Remote.goneRemote.storage ∧ goneDeletion.events =
      [⟨.info, .callLog, "gRPC request started", [("method", .text "DeleteFile"),
          ("full_method", .text "/media.v1.MediaService/DeleteFile")]⟩,
        ⟨.info, .handlers, "Processing DeleteFile request", [("file_id", .text "a")]⟩,
        ⟨.info, .storage, "Deleting file", [("file_id", .text "a")]⟩,
        ⟨.info, .storage, "File not found", [("file_id", .text "a")]⟩,
        ⟨.error, .handlers, "DeleteFile failed", [("error", .text "File not found: a"),
          ("kind", .text "NotFound"), ("file_id", .text "a")]⟩,
        ⟨.error, .callLog, "gRPC request failed", [("method", .text "DeleteFile"),
          ("duration_ms", .real ⟨5 * Nat.pow 2 1073⟩), ("error", .text "File not found: a"),
          ("code", .text "NotFound"), ("status", .text "ERROR")]⟩] ∧
      ∃ answer work ended, goneDeletion.ending = .answered answer ∧
        Bracketed (countingSettings true) Remote.goneRemote.storage (fun _ => 2500000) .deleteFile
          ⟨"a"⟩ (.initial ⟨[], []⟩) answer goneDeletion.events work [] ended := by
  have hd := discreet_remote Remote.goneRemote
  have left : Chain.LeftBehind (State.initial (⟨[], []⟩ : Remote.State)).metrics := .fresh _
  obtain ⟨answer, work, summaries, ended, ha, hb⟩ :=
    call_bracketed (countingSettings true) hd (fun _ => 2500000) .deleteFile ⟨"a"⟩ left
  have summaryless : Event.comingFrom .metrics goneDeletion.events = [] := by decide +kernel
  obtain rfl := hb.counted.1.symm.trans summaryless
  exact ⟨hd, by decide +kernel, answer, work, ended, ha, hb⟩

end Service

end MediaGateway
