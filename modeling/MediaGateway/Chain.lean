import MediaGateway.Chain.CallInfo
import MediaGateway.Grpc.Status
import MediaGateway.Metrics

/-!
# The chain around a call

Every call passes a chain of interceptors before its handler runs. Each of them
sees the call as the one outside it names it, runs the rest of the chain at most
once, and passes a result outwards. A panic runs outwards too, past every
interceptor except the guard, which turns it into a status; the count of calls
is kept either way. Counting panics itself when a mean is too large to be told. The
steps of a run are its events and the marks of custom interceptors, in order.
-/

namespace MediaGateway.Chain

open Grpc (Status)

/-- What a panic carries. -/
inductive Panic where
  /-- A text. -/
  | message (text : String)
  /-- Something that is no text. -/
  | unnamed
  deriving DecidableEq, Repr

/-- The words for a panic. -/
def Panic.text : Panic → String
  | message text => text
  | unnamed => "unknown panic"

/-- A value passed outwards: a response, or something that is none. -/
inductive Payload (ρ : Type) where
  /-- A response of the call. -/
  | response (content : ρ)
  /-- Something that is no response of the call. -/
  | foreign
  deriving DecidableEq, Repr

/-- A result passed outwards. -/
abbrev Result (ρ : Type) : Type := Except Status (Payload ρ)

/-- How a part of the chain ends. -/
inductive Outcome (ρ : Type) where
  /-- With a result. -/
  | returned (result : Result ρ)
  /-- In a panic. -/
  | panicked (panic : Panic)

/-- One thing that happened in a run. -/
inductive Step where
  /-- An event was told. -/
  | event (content : Event)
  /-- A custom interceptor or a handler left a mark. -/
  | mark (text : String)
  deriving DecidableEq, Repr

/-- What a custom interceptor does when a call comes in. -/
inductive Entry (ρ : Type) where
  /-- It answers on its own; nothing inside it runs. -/
  | finish (result : Result ρ)
  /-- It panics. -/
  | panic (panic : Panic)
  /-- It runs the rest of the chain under the given name. -/
  | proceed (call : CallInfo)

/-- A custom interceptor: what it does with a call, and what it makes of the result of the rest. -/
structure Custom (ρ : Type) where
  /-- Its name in marks. -/
  label : String
  /-- What it does when a call comes in. -/
  enter : CallInfo → Entry ρ
  /-- What it makes of a result. -/
  leave : Result ρ → Outcome ρ

/-- One member of a chain. -/
inductive Interceptor (ρ : Type) where
  /-- Tells of the beginning and the end of every call. -/
  | logging
  /-- Turns a panic into a status. -/
  | errorHandling
  /-- Counts calls and how long they take. -/
  | metrics
  /-- Anything else. -/
  | custom (content : Custom ρ)

namespace Interceptor

/-- The name of a member. -/
def name {ρ : Type} : Interceptor ρ → String
  | logging => "logging"
  | errorHandling => "error_handling"
  | metrics => "metrics"
  | custom _ => "custom"

end Interceptor

/-- The event of a call's beginning. -/
def startedEvent (call : CallInfo) : Event :=
  .info .callLog "gRPC request started"
    [("method", .text call.method), ("full_method", .text call.fullMethod)]

/-- The event of a result, after so many milliseconds. -/
def endedEvent {ρ : Type} (call : CallInfo) (milliseconds : Binary64) : Result ρ → Event
  | .ok _ =>
    .info .callLog "gRPC request completed"
      [("method", .text call.method), ("duration_ms", .real milliseconds),
        ("status", .text "SUCCESS")]
  | .error status =>
    .error .callLog "gRPC request failed"
      [("method", .text call.method), ("duration_ms", .real milliseconds),
        ("error", .text status.message), ("code", .text status.code.name),
        ("status", .text "ERROR")]

/-- The event of a panic that was caught. -/
def caughtEvent (call : CallInfo) (panic : Panic) : Event :=
  .error .panicGuard "Unhandled error in gRPC method"
    [("method", .text call.method), ("error", .text panic.text), ("error_type", .text "panic")]

/-- The mark of a custom interceptor before or after the rest of the chain. -/
def markStep (label phase : String) (call : CallInfo) : Step :=
  .mark (label ++ ":" ++ phase ++ ":" ++ call.method)

/-- A handler: it acts on a state of its own, leaves steps, and ends like any part of a chain. -/
abbrev Handler (σ ρ : Type) : Type := σ → Outcome ρ × List Step × σ

/-- What a run left behind. -/
structure Ran (σ ρ : Type) where
  /-- How it ended. -/
  outcome : Outcome ρ
  /-- What happened, in order. -/
  steps : List Step
  /-- The counts afterwards. -/
  metrics : Metrics
  /-- The handler's state afterwards. -/
  state : σ

/-- A reading of a stopwatch: nanoseconds in 64 bits. -/
abbrev Reading : Type := UInt64

/-- The span of a reading. -/
def Reading.span (reading : Reading) : Duration := ⟨reading.toNat⟩

/-- Runs the members from the outermost on and the handler inside them. `took` is what the
stopwatch of a member shows that logs or counts, when `n` members are inside it. -/
def runMembers {σ ρ : Type} (took : Nat → Reading) (handler : Handler σ ρ) :
    List (Interceptor ρ) → CallInfo → Metrics → σ → Ran σ ρ
  | [], _, metrics, state =>
    let (outcome, steps, after) := handler state
    ⟨outcome, steps, metrics, after⟩
  | .logging :: rest, call, metrics, state =>
    let inner := runMembers took handler rest call metrics state
    let ending := match inner.outcome with
      | .returned result =>
        [Step.event (endedEvent call (took rest.length).span.milliseconds result)]
      | .panicked _ => []
    { inner with steps := .event (startedEvent call) :: (inner.steps ++ ending) }
  | .errorHandling :: rest, call, metrics, state =>
    let inner := runMembers took handler rest call metrics state
    match inner.outcome with
    | .returned _ => inner
    | .panicked panic =>
      { inner with
        outcome := .returned (.error (Status.internalError panic.text))
        steps := inner.steps ++ [.event (caughtEvent call panic)] }
  | .metrics :: rest, call, metrics, state =>
    let inner := runMembers took handler rest call metrics state
    let (counted, notice) := inner.metrics.record call.method (took rest.length).span
    { inner with
      outcome := match notice with
        | .meanTooLarge => .panicked (.message Metrics.tooLargeText)
        | _ => inner.outcome
      metrics := counted
      steps := inner.steps ++ notice.events.map .event }
  | .custom member :: rest, call, metrics, state =>
    let before := markStep member.label "before" call
    match member.enter call with
    | .finish result => ⟨.returned result, [before], metrics, state⟩
    | .panic panic => ⟨.panicked panic, [before], metrics, state⟩
    | .proceed renamed =>
      let inner := runMembers took handler rest renamed metrics state
      match inner.outcome with
      | .panicked _ => { inner with steps := before :: inner.steps }
      | .returned result =>
        { inner with
          outcome := member.leave result
          steps := before :: (inner.steps ++ [markStep member.label "after" call]) }

/-- How a whole call ends: with a response or a status, or in a panic that nothing caught. -/
inductive Ending (ρ : Type) where
  /-- With a response or a status. -/
  | answered (answer : Except Status ρ)
  /-- In a panic. -/
  | escaped (panic : Panic)

/-- The ending of a call under a name: a value that is no response becomes a status. -/
def Outcome.ending {ρ : Type} (call : CallInfo) : Outcome ρ → Ending ρ
  | .panicked panic => .escaped panic
  | .returned (.error status) => .answered (.error status)
  | .returned (.ok (.response content)) => .answered (.ok content)
  | .returned (.ok .foreign) =>
    .answered (.error (Status.internalError ("unexpected response type from " ++ call.method)))

/-- A call through a whole chain. -/
structure Finished (σ ρ : Type) where
  /-- How it ended. -/
  ending : Ending ρ
  /-- What happened, in order. -/
  steps : List Step
  /-- The counts afterwards. -/
  metrics : Metrics
  /-- The handler's state afterwards. -/
  state : σ

/-- Runs a call with a path through a chain. -/
def run {σ ρ : Type} (took : Nat → Reading) (chain : List (Interceptor ρ)) (path : String)
    (handler : Handler σ ρ) (metrics : Metrics) (state : σ) : Finished σ ρ :=
  let call := CallInfo.ofPath path
  let ran := runMembers took handler chain call metrics state
  ⟨ran.outcome.ending call, ran.steps, ran.metrics, ran.state⟩

/-- The events among steps. -/
def events (steps : List Step) : List Event :=
  steps.filterMap fun
    | .event content => some content
    | .mark _ => none

/-- The marks among steps. -/
def marks (steps : List Step) : List String :=
  steps.filterMap fun
    | .event _ => none
    | .mark text => some text

end MediaGateway.Chain
