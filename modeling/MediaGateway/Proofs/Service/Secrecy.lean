import Mathlib.Data.List.Forall2
import MediaGateway.Proofs.Chain.Masked
import MediaGateway.Proofs.Service.Sending
import MediaGateway.Proofs.Storage.Secrecy
import MediaGateway.Startup

/-!
# The private key is not told

Two services that differ in the private key alone serve the same calls the same: but
for the signatures of the credentials that they issue they answer alike, with the
same statuses and the same details, they tell the same events, and what they send
looks the same behind the mask. So the key shows in nothing else.
-/

namespace MediaGateway.Service

open Api (Rpc)
open Storage (Remote)

/-- A response with nothing in place of a signature. -/
def unsignedResponse : (rpc : Rpc) → rpc.Response → rpc.Response
  | .getUploadAuth, (response : Api.GetUploadAuthResponse) => { response with signature := "" }
  | .uploadFile, response => response
  | .getFileDetails, response => response
  | .getFiles, response => response
  | .updateFileDetails, response => response
  | .deleteFile, response => response
  | .deleteMultipleFiles, response => response

/-- What a response shows of a result, its signature apart, it shows of the result without one. -/
theorem respond_unsigned {publicKey : String} {rpc : Rpc} {request : rpc.Request}
    {plan : Plan rpc.Response} (h : Service.plan publicKey rpc request = .ok plan)
    (result : plan.operation.Result) :
    unsignedResponse rpc (plan.respond (plan.operation.unsigned result)) =
      unsignedResponse rpc (plan.respond result) := by
  by_cases hu : rpc = .getUploadAuth
  · subst hu
    obtain rfl : planCredential publicKey = plan := Except.ok.inj h
    rfl
  · rcases plan_cases publicKey rpc request with ⟨fault, _, hp⟩ | ⟨_, fields, respond, hp, _⟩
    · cases hp.symm.trans h
    · obtain rfl := Except.ok.inj (hp.symm.trans h)
      rw [Storage.Operation.unsigned_eq (operationOf_ne_credential hu request)]

/-- The end of a handler is that of the storage, as the plan responds to it. -/
theorem handler_masked (publicKey : String) {key : String} (left right : Remote)
    (config : right.config = Remote.rekeyed left.config key) (now : right.now = left.now)
    (provider : right.provider = left.provider) (blind : left.provider.IsBlind) (rpc : Rpc)
    (request : rpc.Request) {state later : Remote.State} (hs : state.masked = later.masked) :
    (handler publicKey left.storage rpc request state).1.masked (unsignedResponse rpc) =
        (handler publicKey right.storage rpc request later).1.masked (unsignedResponse rpc) ∧
      (handler publicKey left.storage rpc request state).2.1 =
        (handler publicKey right.storage rpc request later).2.1 ∧
      (handler publicKey left.storage rpc request state).2.2.masked =
        (handler publicKey right.storage rpc request later).2.2.masked := by
  simp only [handler]
  cases hp : plan publicKey rpc request with
  | error fault => exact ⟨rfl, rfl, hs⟩
  | ok plan =>
    dsimp only
    obtain ⟨ho, he, hm⟩ :=
      Remote.storage_masked config now provider blind plan.operation hs
    generalize left.storage plan.operation state = ran at ho he hm
    generalize right.storage plan.operation later = other at ho he hm
    obtain ⟨outcome, events, after⟩ := ran
    obtain ⟨outcomeOther, eventsOther, afterOther⟩ := other
    obtain rfl : events = eventsOther := he
    rcases Remote.unsignedOutcome_cases ho with
      ⟨result, resultOther, rfl, rfl, hr⟩ | ⟨fault, rfl, rfl⟩ | ⟨panic, rfl, rfl⟩
    · refine ⟨?_, rfl, hm⟩
      have hd : unsignedResponse rpc (plan.respond result) =
          unsignedResponse rpc (plan.respond resultOther) := by
        rw [← respond_unsigned hp, hr, respond_unsigned hp]
      simp only [Chain.Outcome.masked, Chain.maskedResult, Except.map, Chain.Payload.masked, hd]
    · exact ⟨rfl, rfl, hm⟩
    · exact ⟨rfl, rfl, hm⟩

/-- The same settings with another private key. -/
def rekeyed (settings : Settings) (key : String) : Settings :=
  { settings with ikPrivateKey := key }

/-- A state with the requests sent so far behind the mask. -/
def State.masked (state : State Remote.State) : State Remote.State :=
  { state with storage := state.storage.masked }

/-- A call comes to the same under another key, a signature in its response apart. -/
theorem call_masked (settings : Settings) (key : String) {provider : Http.Provider}
    (blind : provider.IsBlind) (now : Int) (took : Nat → Chain.Reading) (rpc : Rpc)
    (request : rpc.Request) {state later : State Remote.State} (hs : state.masked = later.masked) :
    let one := call settings (Remote.mk (.ofSettings settings) now provider).storage took rpc
      request state
    let other := call (rekeyed settings key)
      (Remote.mk (.ofSettings (rekeyed settings key)) now provider).storage took rpc request later
    one.ending.masked (unsignedResponse rpc) = other.ending.masked (unsignedResponse rpc) ∧
      one.events = other.events ∧ one.state.masked = other.state.masked := by
  obtain ⟨metrics, stored⟩ := state
  obtain ⟨metricsLater, storedLater⟩ := later
  obtain ⟨rfl, hm⟩ := State.mk.inj hs
  have hk : StorageConfig.ofSettings (rekeyed settings key) =
      Remote.rekeyed (.ofSettings settings) key := rfl
  obtain ⟨ho, ht, ha⟩ := handler_masked settings.ikPublicKey ⟨.ofSettings settings, now, provider⟩
    ⟨.ofSettings (rekeyed settings key), now, provider⟩ hk rfl rfl blind rpc request hm
  have hr := Chain.runMembers_masked took (members_builtIn settings) (.ofPath rpc.path) metrics
    ho ht
  have hl := Chain.runMembers_builtIn_state took (handler settings.ikPublicKey
    (Remote.mk (.ofSettings settings) now provider).storage rpc request)
    (members_builtIn settings) (.ofPath rpc.path) metrics stored
  have hn := Chain.runMembers_builtIn_state took (handler settings.ikPublicKey
    (Remote.mk (.ofSettings (rekeyed settings key)) now provider).storage rpc request)
    (members_builtIn settings) (.ofPath rpc.path) metrics storedLater
  refine ⟨?_, congrArg Chain.events hr.steps, ?_⟩
  · rw [call, call, Chain.run, Chain.run, ← Chain.Outcome.ending_masked,
      ← Chain.Outcome.ending_masked]
    exact congrArg (Chain.Outcome.ending _) hr.outcome
  · rw [← hl, ← hn] at ha
    exact State.mk.injEq .. ▸ ⟨hr.metrics, ha⟩

/-- A call that is made to a running service. -/
structure Visit where
  /-- The second at which it is made. -/
  now : Int
  /-- What becomes of requests while it is served. -/
  provider : Http.Provider
  /-- What the stopwatch shows. -/
  took : Nat → Chain.Reading
  /-- What is called. -/
  rpc : Rpc
  /-- With which request. -/
  request : rpc.Request

/-- What is heard of a call: its end, and what was told. -/
structure Heard where
  /-- What was called. -/
  rpc : Rpc
  /-- How it ended. -/
  ending : Chain.Ending rpc.Response
  /-- What was told. -/
  events : List Event

/-- What is heard of a call, a signature apart. -/
def Heard.unsigned (heard : Heard) : Heard :=
  { heard with ending := heard.ending.masked (unsignedResponse heard.rpc) }

/-- Serves calls one after the other: what is heard of them, and the state afterwards. -/
def serve (settings : Settings) :
    List Visit → State Remote.State → List Heard × State Remote.State
  | [], state => ([], state)
  | visit :: rest, state =>
    let called := call settings
      (Remote.mk (.ofSettings settings) visit.now visit.provider).storage visit.took visit.rpc
      visit.request state
    let (heard, last) := serve settings rest called.state
    (⟨visit.rpc, called.ending, called.events⟩ :: heard, last)

/-- Calls come to the same under another key, after states that look the same. -/
theorem serve_masked (settings : Settings) (key : String) {visits : List Visit}
    (blind : ∀ visit ∈ visits, visit.provider.IsBlind) {state later : State Remote.State}
    (hs : state.masked = later.masked) :
    (serve settings visits state).1.map Heard.unsigned =
        (serve (rekeyed settings key) visits later).1.map Heard.unsigned ∧
      (serve settings visits state).2.masked =
        (serve (rekeyed settings key) visits later).2.masked := by
  -- What carries over from call to call is that the states look the same.
  induction visits generalizing state later with
  | nil => exact ⟨rfl, hs⟩
  | cons visit rest ih =>
    obtain ⟨he, ht, ha⟩ := call_masked settings key (blind visit List.mem_cons_self) visit.now
      visit.took visit.rpc visit.request hs
    obtain ⟨hh, hl⟩ := ih (fun other member => blind other (List.mem_cons_of_mem _ member)) ha
    refine ⟨?_, hl⟩
    simp only [serve, List.map_cons, hh, Heard.unsigned, he, ht]

/-- Whatever is called, two services that differ in the private key alone cannot be told apart,
signatures and credentials apart: they start alike, and to calls with the same requests, at the
same seconds, with the same random octets and with providers that are blind to credentials they
answer the same and tell the same, and the requests that they send differ in nothing but the
credential. -/
theorem private_key_unseen (settings : Settings) (key : String)
    (canListen : Net.SocketAddress → Bool) (visits : List Visit)
    (blind : ∀ visit ∈ visits, visit.provider.IsBlind) (state : State Remote.State) :
    Startup.course settings canListen = Startup.course (rekeyed settings key) canListen ∧
      let one := serve settings visits state
      let other := serve (rekeyed settings key) visits state
      one.1.map Heard.unsigned = other.1.map Heard.unsigned ∧
        List.Forall₂ (fun left right : Http.Request => left.method = right.method ∧
          left.url = right.url ∧ left.authorization.isSome = right.authorization.isSome ∧
            left.body = right.body) one.2.storage.sent other.2.storage.sent ∧
        one.2.metrics = other.2.metrics := by
  obtain ⟨hh, hl⟩ := serve_masked settings key blind (rfl : state.masked = state.masked)
  obtain ⟨hm, hs⟩ := State.mk.inj hl
  refine ⟨rfl, hh, ?_, hm⟩
  have hf : List.Forall₂ (fun left right : Http.Request => left.masked = right.masked)
      (serve settings visits state).2.storage.sent
      (serve (rekeyed settings key) visits state).2.storage.sent := by
    have he := congrArg Remote.State.sent hs
    rw [← List.forall₂_eq_eq_eq] at he
    exact List.forall₂_map_left_iff.mp (List.forall₂_map_right_iff.mp he)
  exact hf.imp fun left right h => Http.masked_eq_iff.mp h

/-- A credential is issued, and then the provider denies that it has a file. -/
def denied : List Visit :=
  let provider : Http.Provider := fun _ =>
    .answered ⟨404, [], Bytes.ofText "Unknown credential", .complete⟩
  [⟨0, provider, fun _ => 7, .getUploadAuth, ⟨⟩⟩,
    ⟨1, provider, fun _ => 7, .getFileDetails, ⟨"a"⟩⟩]

/-- Two keys make two credentials, and nothing else of what is heard or sent differs. -/
theorem denied_alike :
    (serve (countingSettings true) denied (.initial ⟨[], []⟩)).2.storage.sent.map
        (·.authorization) = [some (Http.basicCredential "private")] ∧
      (serve (rekeyed (countingSettings true) "other") denied (.initial ⟨[], []⟩)).2.storage.sent.map
        (·.authorization) = [some (Http.basicCredential "other")] ∧
      Http.basicCredential "private" ≠ Http.basicCredential "other" ∧
      (∀ visit ∈ denied, visit.provider.IsBlind) ∧
      (serve (countingSettings true) denied (.initial ⟨[], []⟩)).1.map Heard.unsigned =
        (serve (rekeyed (countingSettings true) "other") denied (.initial ⟨[], []⟩)).1.map
          Heard.unsigned := by
  have hb : ∀ visit ∈ denied, visit.provider.IsBlind := by
    intro visit member
    simp only [denied, List.mem_cons, List.not_mem_nil, or_false] at member
    rcases member with rfl | rfl <;> exact fun _ _ _ => rfl
  exact ⟨by decide +kernel, by decide +kernel, by decide, hb,
    (private_key_unseen _ "other" (fun _ => true) denied hb _).2.1⟩

end MediaGateway.Service
