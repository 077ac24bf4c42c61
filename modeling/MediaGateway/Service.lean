import MediaGateway.Service.Members
import MediaGateway.Service.Plan

/-!
# The service

A call runs through the chain of the service to its handler, which asks the
storage and shapes the response. A failure, of the request or of the storage,
becomes a status that carries the response of the failure in its details.
-/

namespace MediaGateway.Service

open Api (Rpc)
open Grpc (Status)

/-- The status of a failed call. -/
def faultStatus (rpc : Rpc) (fault : Fault) : Status :=
  .ofFault fault (Protobuf.Message.encode (refusal fault.message rpc))

/-- What is told of a failed call. -/
def failedEvent (rpc : Rpc) (request : rpc.Request) (fault : Fault) : Event :=
  .error .handlers (rpc.name ++ " failed")
    ([("error", .text fault.message), ("kind", .text fault.kind.name)] ++ subjectFields rpc request)

/-- The handler of a call. -/
def handler {σ : Type} (publicKey : String) (storage : Storage σ) (rpc : Rpc)
    (request : rpc.Request) : Chain.Handler σ rpc.Response := fun state =>
  match plan publicKey rpc request with
  | .error fault =>
    (.returned (.error (faultStatus rpc fault)), [.event (failedEvent rpc request fault)], state)
  | .ok plan =>
    let ran := storage plan.operation state
    let told := Chain.Step.event plan.started :: ran.events.map .event
    match ran.outcome with
    | .done result => (.returned (.ok (.response (plan.respond result))), told, ran.state)
    | .failed fault =>
      (.returned (.error (faultStatus rpc fault)),
        told ++ [.event (failedEvent rpc request fault)], ran.state)
    | .panicked panic => (.panicked panic, told, ran.state)

/-- What changes while the service is used. -/
structure State (σ : Type) where
  /-- The counts of calls. -/
  metrics : Metrics
  /-- The state of the storage. -/
  storage : σ

/-- The state before the first call. -/
def State.initial {σ : Type} (storage : σ) : State σ := ⟨initialMetrics, storage⟩

/-- A call that is over. -/
structure Called (σ ρ : Type) where
  /-- How it ended. -/
  ending : Chain.Ending ρ
  /-- What was told. -/
  events : List Event
  /-- The state afterwards. -/
  state : State σ

/-- Serves a call. -/
def call {σ : Type} (settings : Settings) (storage : Storage σ) (took : Nat → Chain.Reading)
    (rpc : Rpc) (request : rpc.Request) (state : State σ) : Called σ rpc.Response :=
  let finished := Chain.run took (members settings) rpc.path
    (handler settings.ikPublicKey storage rpc request) state.metrics state.storage
  ⟨finished.ending, Chain.events finished.steps, ⟨finished.metrics, finished.state⟩⟩

end MediaGateway.Service
