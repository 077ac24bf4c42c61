import MediaGateway.Chain
import MediaGateway.Proofs.Decimal.Rounding
import MediaGateway.Proofs.Metrics

/-!
# What the members of the service make of a result

The members that log, guard and count pass every result outwards as it is. Only
the count could stand in the way, by a mean that is too large to be told; but a
mean of readings of a stopwatch never is, and earlier calls leave nothing else
behind.
-/

namespace MediaGateway

namespace Metrics

/-- Counts whose samples are no larger than readings of a stopwatch, and no more than fit in the
window. -/
def Timed (metrics : Metrics) : Prop :=
  ∀ method, (metrics.stats method).window.length ≤ windowSize ∧
    ∀ sample ∈ (metrics.stats method).window, sample.units ≤ Duration.sampleBound

/-- Methods that were never called have no samples. -/
theorem timed_ofMethods (methods : List String) : (ofMethods methods).Timed := by
  intro method
  rw [stats_ofMethods]
  exact ⟨Nat.zero_le _, fun sample member => absurd member List.not_mem_nil⟩

/-- A window that takes in a reading stays one of readings. -/
theorem pushSample_timed {window : List Binary64}
    (h : ∀ sample ∈ window, sample.units ≤ Duration.sampleBound) (reading : Chain.Reading) :
    (pushSample window reading.span.seconds).length ≤ windowSize ∧
      ∀ sample ∈ pushSample window reading.span.seconds,
        sample.units ≤ Duration.sampleBound := by
  constructor
  · rw [pushSample, List.length_drop]
    omega
  · intro sample member
    rcases List.mem_append.mp (List.mem_of_mem_drop member) with hw | hr
    · exact h sample hw
    · rw [List.mem_singleton.mp hr]
      exact Duration.seconds_le reading.toNat_lt

/-- Recording a reading leaves counts of readings. -/
theorem Timed.record {metrics : Metrics} (timed : metrics.Timed) (method : String)
    (reading : Chain.Reading) : (metrics.record method reading.span).1.Timed := by
  intro other
  rw [stats_record]
  split
  · simp only [Stats.push]
    exact pushSample_timed (timed method).2 reading
  · exact timed other

/-- Of a reading that is recorded a summary is told when one is due, and nothing otherwise: the mean
of readings is never too large. -/
theorem Timed.record_cases {metrics : Metrics} (timed : metrics.Timed) (method : String)
    (reading : Chain.Reading) :
    ((metrics.requestCount method + 1) % 100 ≠ 0 ∧
        (metrics.record method reading.span).2 = .silent) ∨
      ∃ averageMs, (metrics.requestCount method + 1) % 100 = 0 ∧
        (metrics.record method reading.span).2 =
          .summary ⟨method, metrics.requestCount method + 1, averageMs⟩ := by
  have hp := pushSample_timed (timed method).2 reading
  have hm := Duration.mean_isSpan hp.1 hp.2
  obtain ⟨undue, h⟩ | ⟨span, due, _, h⟩ | ⟨_, hn, _⟩ :=
    ((metrics.stats method).push reading.span).notice_cases method
  · exact .inl ⟨undue, h⟩
  · exact .inr ⟨span.milliseconds, due, h⟩
  · simp only [Stats.push] at hn
    rw [hn] at hm
    exact absurd hm Bool.false_ne_true

/-- The mean that is told of a reading is never too large. -/
theorem Timed.notice_ne {metrics : Metrics} (timed : metrics.Timed) (method : String)
    (reading : Chain.Reading) : (metrics.record method reading.span).2 ≠ .meanTooLarge := by
  obtain ⟨_, h⟩ | ⟨averageMs, _, h⟩ := timed.record_cases method reading
  · rw [h]
    exact Notice.noConfusion
  · rw [h]
    exact Notice.noConfusion

end Metrics

namespace Chain

variable {σ ρ : Type}

/-- Whatever the members of a chain are, a call leaves counts of readings. -/
theorem runMembers_timed (took : Nat → Reading) (handler : Handler σ ρ)
    (chain : List (Interceptor ρ)) (call : CallInfo) {metrics : Metrics} (timed : metrics.Timed)
    (state : σ) : (runMembers took handler chain call metrics state).metrics.Timed := by
  induction chain generalizing call with
  | nil => exact timed
  | cons member rest ih =>
    cases member with
    | logging => exact ih call
    | errorHandling =>
      have hi := ih call
      rw [runMembers]
      split <;> exact hi
    | metrics => exact (ih call).record call.method (took rest.length)
    | custom member =>
      rw [runMembers]
      dsimp only
      split
      · exact timed
      · exact timed
      next renamed _ =>
        have hi := ih renamed
        split <;> exact hi

/-- The counts that calls leave behind, through whatever chains and with whatever handlers. -/
inductive LeftBehind : Metrics → Prop where
  /-- Before the first call some methods are known. -/
  | fresh (methods : List String) : LeftBehind (Metrics.ofMethods methods)
  /-- One more call. -/
  | after {σ ρ : Type} {metrics : Metrics} (before : LeftBehind metrics) (took : Nat → Reading)
    (chain : List (Interceptor ρ)) (path : String) (handler : Handler σ ρ) (state : σ) :
    LeftBehind (run took chain path handler metrics state).metrics

/-- What calls leave behind are counts of readings. -/
theorem LeftBehind.timed {metrics : Metrics} (left : LeftBehind metrics) : metrics.Timed := by
  induction left with
  | fresh methods => exact Metrics.timed_ofMethods methods
  | after before took chain path handler state ih =>
    exact runMembers_timed took handler chain (CallInfo.ofPath path) ih state

/-- A member of the service: it logs, guards or counts. -/
def Interceptor.IsBuiltIn : Interceptor ρ → Prop
  | .logging => True
  | .errorHandling => True
  | .metrics => True
  | .custom _ => False

/-- Members of the service pass a result outwards as it is, and leave the state of the handler
alone. -/
theorem runMembers_builtIn (took : Nat → Reading) {handler : Handler σ ρ}
    {chain : List (Interceptor ρ)} (builtIn : ∀ member ∈ chain, member.IsBuiltIn)
    (call : CallInfo) {metrics : Metrics} (timed : metrics.Timed) {state : σ} {result : Result ρ}
    (h : (handler state).1 = .returned result) :
    (runMembers took handler chain call metrics state).outcome = .returned result ∧
      (runMembers took handler chain call metrics state).state = (handler state).2.2 := by
  induction chain with
  | nil => exact ⟨h, rfl⟩
  | cons member rest ih =>
    obtain ⟨ho, hs⟩ := ih fun other deeper => builtIn other (List.mem_cons_of_mem _ deeper)
    cases member with
    | logging => exact ⟨ho, hs⟩
    | errorHandling =>
      simp only [runMembers, ho, hs, and_self]
    | metrics =>
      have hi := runMembers_timed took handler rest call timed state
      have hn := hi.notice_ne call.method (took rest.length)
      refine ⟨?_, hs⟩
      rw [runMembers]
      dsimp only
      split
      · contradiction
      · exact ho
    | custom member => exact (builtIn _ List.mem_cons_self).elim

/-- Whatever happens inside the guard, it returns a result. -/
theorem exists_returned_of_guard (took : Nat → Reading) (handler : Handler σ ρ)
    (rest : List (Interceptor ρ)) (call : CallInfo) (metrics : Metrics) (state : σ) :
    ∃ result, (runMembers took handler (.errorHandling :: rest) call metrics state).outcome =
      .returned result := by
  rw [runMembers]
  cases hi : (runMembers took handler rest call metrics state).outcome with
  | returned result => exact ⟨result, hi⟩
  | panicked panic => exact ⟨_, rfl⟩

/-- A call through members of the service ends in the result of its handler. -/
theorem run_builtIn (took : Nat → Reading) {handler : Handler σ ρ}
    {chain : List (Interceptor ρ)} (builtIn : ∀ member ∈ chain, member.IsBuiltIn)
    (path : String) {metrics : Metrics} (left : LeftBehind metrics) {state : σ}
    {result : Except Grpc.Status ρ} (h : (handler state).1 = .returned (result.map .response)) :
    (run took chain path handler metrics state).ending = .answered result ∧
      (run took chain path handler metrics state).state = (handler state).2.2 := by
  obtain ⟨ho, hs⟩ := runMembers_builtIn took builtIn (CallInfo.ofPath path) left.timed h
  refine ⟨?_, hs⟩
  rw [run]
  dsimp only
  rw [ho]
  cases result with
  | ok content => rfl
  | error status => rfl

end Chain

end MediaGateway
