import MediaGateway.Duration
import MediaGateway.Event

/-!
# Counts of calls

For each method the service keeps how often it was called and how long the last
calls took, a thousand of them at most. At every hundredth call of a method it
tells the count and the mean.
-/

namespace MediaGateway

namespace Metrics

/-- A summary is told at every call whose number is a multiple of this. -/
def summaryEvery : Nat := 100

/-- Calls whose length is remembered. -/
def windowSize : Nat := 1000

/-- What is kept for one method. -/
structure Stats where
  /-- How often it was called. -/
  count : Nat
  /-- Seconds that the last calls took, the oldest first. -/
  window : List Binary64
  deriving DecidableEq, Repr

/-- What is kept for a method never called. -/
def Stats.blank : Stats := ⟨0, []⟩

/-- What is told about a method. -/
structure Summary where
  /-- The method. -/
  method : String
  /-- How often it was called. -/
  totalRequests : Nat
  /-- The mean length of the last calls in milliseconds. -/
  averageMs : Binary64
  deriving DecidableEq, Repr

/-- What recording a call says: nothing, a summary, or that the mean is no span of time. -/
inductive Notice where
  /-- No summary is due. -/
  | silent
  /-- A summary. -/
  | summary (content : Summary)
  /-- A summary was due, but the mean is too large for a span. -/
  | meanTooLarge
  deriving DecidableEq, Repr

/-- The words for a mean that is too large. -/
def tooLargeText : String :=
  "cannot convert float seconds to Duration: value is either too big or NaN"

/-- Samples with one more at the end, of which the oldest in excess are dropped. -/
def pushSample (window : List Binary64) (sample : Binary64) : List Binary64 :=
  let grown := window ++ [sample]
  grown.drop (grown.length - windowSize)

/-- What is kept after one more call. -/
def Stats.push (stats : Stats) (took : Duration) : Stats :=
  ⟨stats.count + 1, pushSample stats.window took.seconds⟩

/-- What is said when the given is kept after a call. -/
def Stats.notice (stats : Stats) (method : String) : Notice :=
  if stats.count % summaryEvery = 0 then
    match Duration.ofSeconds? (Duration.mean stats.window) with
    | some span => .summary ⟨method, stats.count, span.milliseconds⟩
    | none => .meanTooLarge
  else .silent

end Metrics

/-- What is kept for each method. -/
structure Metrics where
  /-- Methods with what is kept for them; a method comes once at most. -/
  entries : List (String × Metrics.Stats)
  deriving DecidableEq, Repr

namespace Metrics

/-- Nothing is kept yet. -/
def empty : Metrics := ⟨[]⟩

/-- What is kept for a method. -/
def stats (metrics : Metrics) (method : String) : Stats :=
  (metrics.entries.lookup method).getD Stats.blank

/-- Entries with what is kept for one method replaced, or added at the end. -/
def putStats (method : String) (kept : Stats) : List (String × Stats) → List (String × Stats)
  | [] => [(method, kept)]
  | (first, old) :: rest =>
    if first = method then (first, kept) :: rest else (first, old) :: putStats method kept rest

/-- The counts with methods known before they are called. -/
def ofMethods (methods : List String) : Metrics :=
  ⟨methods.foldl (fun entries method => putStats method Stats.blank entries) []⟩

/-- The counts after a call, and what is said about it. -/
def record (metrics : Metrics) (method : String) (took : Duration) : Metrics × Notice :=
  let kept := (metrics.stats method).push took
  (⟨putStats method kept metrics.entries⟩, kept.notice method)

/-- How often a method was called. -/
def requestCount (metrics : Metrics) (method : String) : Nat := (metrics.stats method).count

/-- How many calls of a method are remembered with their length. -/
def sampleWindow (metrics : Metrics) (method : String) : Nat :=
  (metrics.stats method).window.length

/-- The event of a summary. -/
def Summary.event (summary : Summary) : Event :=
  .info .metrics "Method metrics"
    [("method", .text summary.method), ("total_requests", .integer summary.totalRequests),
      ("avg_duration_ms", .real summary.averageMs)]

/-- The events of a notice. -/
def Notice.events : Notice → List Event
  | .summary content => [content.event]
  | _ => []

end Metrics

end MediaGateway
