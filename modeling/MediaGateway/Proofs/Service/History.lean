import MediaGateway.Proofs.Chain.BuiltIn
import MediaGateway.Proofs.Service.Plan
import MediaGateway.Proofs.Storage.Outcome

/-!
# Calls after other calls

What earlier calls leave behind does not show in a later one. The chain of the
service passes the result of the handler outwards, whatever was counted before,
and the handler sees nothing of the past but what the provider makes of it.
-/

namespace MediaGateway

namespace Http

/-- Two providers that make the same of whatever requests follow those that were sent to each. -/
def Alike (left right : Provider) (sentLeft sentRight : List Request) : Prop :=
  ∀ more, left (sentLeft ++ more) = right (sentRight ++ more)

/-- Providers that are alike stay so after one more request. -/
theorem Alike.after {left right : Provider} {sentLeft sentRight : List Request}
    (alike : Alike left right sentLeft sentRight) (request : Request) :
    Alike left right (sentLeft ++ [request]) (sentRight ++ [request]) := by
  intro more
  rw [List.append_assoc, List.append_assoc, alike]

/-- An exchange comes to the same with providers that are alike. -/
theorem exchange_alike {left right : Provider} (first : Url) (redirections : Nat)
    (request : Request) {sentLeft sentRight : List Request}
    (alike : Alike left right sentLeft sentRight) :
    (exchange left first redirections request sentLeft).result =
      (exchange right first redirections request sentRight).result := by
  induction redirections using Nat.strongRecOn generalizing request sentLeft sentRight with
  | ind redirections ih =>
    rw [exchange.eq_def, exchange.eq_def right]
    dsimp only
    rw [alike [request]]
    split
    · rfl
    · rfl
    · rfl
    next answer _ =>
      split
      · rfl
      · rfl
      next place _ =>
        cases redirections with
        | zero => rfl
        | succ less =>
          dsimp only
          split
          · rfl
          · exact ih less (Nat.lt_succ_self less) _ (alike.after request)

/-- What comes of a request is the same with providers that are alike. -/
theorem send_alike {left right : Provider} (request : Request)
    {sentLeft sentRight : List Request} (alike : Alike left right sentLeft sentRight) :
    (send left request sentLeft).result = (send right request sentRight).result := by
  rw [send, send]
  split
  · exact exchange_alike request.url redirectLimit request alike
  · rfl

end Http

namespace Storage.Remote

/-- Two storages in states from which the same follows: they are set up the same, it is the same
second, their providers are alike from here on, and the next random octets are the same. -/
structure Alike (left right : Remote) (stateLeft stateRight : State) : Prop where
  /-- They are set up the same. -/
  config : left.config = right.config
  /-- It is the same second. -/
  now : left.now = right.now
  /-- The providers are alike. -/
  provider : Http.Alike left.provider right.provider stateLeft.sent stateRight.sent
  /-- The next random octets are the same. -/
  random : stateLeft.random.head? = stateRight.random.head?

/-- An inquiry comes to the same in storages that are alike. -/
theorem ask_alike {α : Type} {left right : Remote} {stateLeft stateRight : State}
    (alike : Alike left right stateLeft stateRight) (inquiry : Inquiry α) :
    (left.ask inquiry stateLeft).outcome = (right.ask inquiry stateRight).outcome := by
  cases hp : inquiry.request with
  | withheld fault => simp only [ask, Inquiry.run, hp]
  | unsendable problem => simp only [ask, Inquiry.run, hp]
  | ready request =>
    have he := Http.send_alike request alike.provider
    simp only [ask, Inquiry.run, hp, he]

/-- An operation comes to the same in storages that are alike. -/
theorem storage_alike {left right : Remote} {stateLeft stateRight : State}
    (alike : Alike left right stateLeft stateRight) (operation : Operation) :
    (left.storage operation stateLeft).outcome = (right.storage operation stateRight).outcome := by
  have hc := alike.config
  by_cases ha : operation = .credential
  · subst ha
    simp only [storage, issue, hc, alike.now, alike.random]
  · cases hr : refusal? left.config operation with
    | some fault =>
      rw [(storage_refused hr stateLeft).1, (storage_refused (hc ▸ hr) stateRight).1]
    | none =>
      obtain ⟨met, _, inquiry, hi, _⟩ := exists_met left stateLeft ha hr
      rw [storage_asks hr hi, storage_asks (hc ▸ hr) (hc ▸ hi)]
      exact ask_alike alike inquiry

end Storage.Remote

namespace Service

open Api (Rpc)
open Grpc (Status)
open Storage (Remote)

/-- The handler of a call returns with a response or with a status. -/
theorem handler_returns (publicKey : String) (remote : Remote) (rpc : Rpc) (request : rpc.Request)
    (state : Remote.State) : ∃ result : Except Status rpc.Response,
      (handler publicKey remote.storage rpc request state).1 =
        .returned (result.map .response) := by
  cases ho : objection? rpc request with
  | some fault =>
    exact ⟨.error (faultStatus rpc fault),
      by rw [handler_of_objection publicKey remote.storage ho]; rfl⟩
  | none =>
    rcases remote.storage_ends (operationOf rpc request) state with
      ⟨result, hr⟩ | ⟨fault, hr, _⟩
    · obtain ⟨fields, response, _, hh⟩ := handler_of_done publicKey remote.storage ho state hr
      exact ⟨.ok response, by rw [hh]; rfl⟩
    · obtain ⟨fields, hh⟩ := handler_of_failed publicKey remote.storage ho state hr
      exact ⟨.error (faultStatus rpc fault), by rw [hh]; rfl⟩

/-- The handler of a call ends the same in storages that are alike. -/
theorem handler_alike (publicKey : String) {left right : Remote}
    {stateLeft stateRight : Remote.State} (alike : Remote.Alike left right stateLeft stateRight)
    (rpc : Rpc) (request : rpc.Request) :
    (handler publicKey left.storage rpc request stateLeft).1 =
      (handler publicKey right.storage rpc request stateRight).1 := by
  rw [handler, handler]
  cases plan publicKey rpc request with
  | error fault => rfl
  | ok plan =>
    have hs := Remote.storage_alike alike plan.operation
    dsimp only
    rw [hs]
    cases (right.storage plan.operation stateRight).outcome with
    | done result => rfl
    | failed fault => rfl
    | panicked panic => rfl

/-- The chain of the service has members of the service only. -/
theorem members_builtIn {ρ : Type} (settings : Settings) :
    ∀ member ∈ (members settings : List (Chain.Interceptor ρ)), member.IsBuiltIn := by
  intro member hm
  simp only [members, List.mem_append, List.mem_cons, List.not_mem_nil, or_false] at hm
  rcases hm with (rfl | rfl) | hm
  · trivial
  · trivial
  · split at hm
    · obtain rfl := List.mem_singleton.mp hm
      trivial
    · exact absurd hm List.not_mem_nil

/-- The states that calls leave behind, whatever the settings and the storage of each were. -/
inductive Reached : State Remote.State → Prop where
  /-- Before the first call nothing is sent. -/
  | initial (random : List Bytes) : Reached (.initial ⟨[], random⟩)
  /-- One more call. -/
  | after {state : State Remote.State} (before : Reached state) (settings : Settings)
    (remote : Remote) (took : Nat → Chain.Reading) (rpc : Rpc) (request : rpc.Request) :
    Reached (call settings remote.storage took rpc request state).state

/-- The counts of a state that calls leave behind are left behind by calls. -/
theorem Reached.metrics {state : State Remote.State} (reached : Reached state) :
    Chain.LeftBehind state.metrics := by
  induction reached with
  | initial random => exact .fresh _
  | after before settings remote took rpc request ih => exact ih.after took _ _ _ _

/-- A call ends in the result of its handler, and leaves the storage as the handler does. -/
theorem call_ends {settings : Settings} {remote : Remote} (took : Nat → Chain.Reading) {rpc : Rpc}
    {request : rpc.Request} {state : State Remote.State} (reached : Reached state)
    {result : Except Status rpc.Response}
    (h : (handler settings.ikPublicKey remote.storage rpc request state.storage).1 =
      .returned (result.map .response)) :
    (call settings remote.storage took rpc request state).ending = .answered result ∧
      (call settings remote.storage took rpc request state).state.storage =
        (handler settings.ikPublicKey remote.storage rpc request state.storage).2.2 :=
  Chain.run_builtIn took (members_builtIn settings) rpc.path reached.metrics h

/-- A call of the service is answered, whatever its storage does. -/
theorem exists_answer {σ : Type} (settings : Settings) (storage : Storage σ)
    (took : Nat → Chain.Reading) (rpc : Rpc) (request : rpc.Request)
    (state : State σ) :
    ∃ answer, (call settings storage took rpc request state).ending = .answered answer := by
  obtain ⟨result, hr⟩ := Chain.exists_returned_of_guard took
    (handler settings.ikPublicKey storage rpc request)
    (if settings.metricsEnabled then [.metrics] else []) (.ofPath rpc.path) state.metrics
    state.storage
  have he : (call settings storage took rpc request state).ending =
      (Chain.Outcome.returned result).ending (.ofPath rpc.path) :=
    congrArg (Chain.Outcome.ending (.ofPath rpc.path)) hr
  rw [he]
  rcases result with status | content | _
  · exact ⟨_, rfl⟩
  · exact ⟨_, rfl⟩
  · exact ⟨_, rfl⟩

/-- A chain of members that log, guard and count ends in the result of its handler, whatever calls
have left behind, and the chain of the service is one. So a call ends the same after any two
histories, whether or not calls are counted, where its storages are alike. -/
theorem history_unseen :
    (∀ {σ ρ : Type} (took : Nat → Chain.Reading) (chain : List (Chain.Interceptor ρ))
        (path : String) (metrics : Metrics) (handler : Chain.Handler σ ρ) (state : σ)
        (result : Except Status ρ), (∀ member ∈ chain, member.IsBuiltIn) →
      Chain.LeftBehind metrics → (handler state).1 = .returned (result.map .response) →
        (Chain.run took chain path handler metrics state).ending = .answered result) ∧
    (∀ {ρ : Type} (settings : Settings),
      ∀ member ∈ (members settings : List (Chain.Interceptor ρ)), member.IsBuiltIn) ∧
    ∀ (settings other : Settings) (remote again : Remote) (state later : State Remote.State)
        (took tookLater : Nat → Chain.Reading) (rpc : Rpc) (request : rpc.Request),
      settings.ikPublicKey = other.ikPublicKey → Reached state → Reached later →
        Remote.Alike remote again state.storage later.storage →
          ∃ result, (call settings remote.storage took rpc request state).ending =
              .answered result ∧
            (call other again.storage tookLater rpc request later).ending = .answered result := by
  refine ⟨?_, members_builtIn, ?_⟩
  · intro σ ρ took chain path metrics handler state result builtIn left h
    exact (Chain.run_builtIn took builtIn path left h).1
  · intro settings other remote again state later took tookLater rpc request hk hs hl alike
    obtain ⟨result, hr⟩ :=
      handler_returns settings.ikPublicKey remote rpc request state.storage
    have ha : (handler other.ikPublicKey again.storage rpc request later.storage).1 =
        .returned (result.map .response) := by
      rw [← hk, ← handler_alike settings.ikPublicKey alike rpc request, hr]
    exact ⟨result, (call_ends took hs hr).1, (call_ends tookLater hl ha).1⟩

/-- Settings with the counting of calls on or off. -/
def countingSettings (counted : Bool) : Settings where
  ikPrivateKey := "private"
  ikPublicKey := "public"
  ikUrlEndpoint := "http://[::1]"
  ikApiBaseUrl := "http://[::1]"
  ikUploadBaseUrl := "http://[::1]"
  ikTimeoutSecs := 60
  grpcHost := "[::1]"
  grpcPort := 50056
  maxWorkers := 10
  logLevel := "INFO"
  logFormat := .json
  appName := "media-service"
  environment := "development"
  metricsEnabledSetting := some counted
  maxFileSizeMb := 100
  maxFilesPerBatchDelete := 100
  maxMessageSizeMb := 256
  shutdownGraceSecs := 30

/-- The state after a call that was counted. -/
def countedOnce : State Remote.State :=
  (call (countingSettings true) Remote.goneRemote.storage (fun _ => 7) .deleteFile ⟨""⟩
    (.initial ⟨[], []⟩)).state

/-- A deletion ends the same as the first call, which is counted, and as the second, which is
not. -/
theorem deletion_unseen :
    Reached countedOnce ∧ Metrics.requestCount countedOnce.metrics "DeleteFile" = 1 ∧
      ∃ result, (call (countingSettings true) Remote.goneRemote.storage (fun _ => 1) .deleteFile
          ⟨"a"⟩ (.initial ⟨[], []⟩)).ending = .answered result ∧
        (call (countingSettings false) Remote.goneRemote.storage (fun _ => 2) .deleteFile
          ⟨"a"⟩ countedOnce).ending = .answered result := by
  have hs : countedOnce.storage = ⟨[], []⟩ := rfl
  have hr : Reached countedOnce := (Reached.initial []).after _ _ _ _ _
  have ha : Remote.Alike Remote.goneRemote Remote.goneRemote ⟨[], []⟩ countedOnce.storage :=
    ⟨rfl, rfl, fun _ => rfl, by rw [hs]⟩
  exact ⟨hr, by decide, history_unseen.2.2 _ (countingSettings false) _ _ _ _ _ (fun _ => 2)
    .deleteFile ⟨"a"⟩ rfl (.initial []) hr ha⟩

end Service

end MediaGateway
