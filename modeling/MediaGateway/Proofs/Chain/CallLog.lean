import MediaGateway.Proofs.Chain.Unwinding

/-!
# What the log of calls tells

The log that is outermost in a chain writes last, with the result in hand that the
members inside it pass outwards. What the caller gets is that result, unless it is a
value that is no response: the log takes it for a success, and the caller gets a status
that nothing is told of. Members that make no such value cannot bring that about.
-/

namespace MediaGateway.Chain

open Grpc (Status)

variable {σ ρ : Type}

/-- An event tells how a call ended, after so many milliseconds: that it went well, or the message
and the code of the status that it failed with. -/
def Tells (call : CallInfo) (lasted : Binary64) (told : Event) : Ending ρ → Prop
  | .answered (.ok _) => told = completedEvent call lasted
  | .answered (.error status) => told = failedEvent call lasted status
  | .escaped _ => False

/-- A call that went well is not told like one that failed. -/
theorem completedEvent_ne (call other : CallInfo) (lasted later : Binary64) (status : Status) :
    completedEvent call lasted ≠ failedEvent other later status := by
  intro h
  have hl : Level.info = Level.error := congrArg Event.level h
  exact absurd hl (by decide)

/-- The event of a result tells how the call ends, unless the result is a value that is no
response. -/
theorem tells_endedEvent_iff (call : CallInfo) (lasted : Binary64) (result : Result ρ) :
    Tells call lasted (endedEvent call lasted result) (Outcome.ending call (.returned result)) ↔
      result ≠ .ok .foreign := by
  cases result with
  | error status => exact iff_of_true rfl (by rintro ⟨⟩)
  | ok payload =>
    cases payload with
    | response content => exact iff_of_true rfl (by rintro ⟨⟩)
    | foreign =>
      exact iff_of_false (completedEvent_ne call call lasted lasted _) (not_not_intro rfl)

/-- A member makes no value that is no response: it does not answer with one, and makes none of a
result that is none. -/
def Interceptor.IsCandid : Interceptor ρ → Prop
  | .logging => True
  | .errorHandling => True
  | .metrics => True
  | .custom member =>
    (∀ call, member.enter call ≠ .finish (.ok .foreign)) ∧
      ∀ result, result ≠ .ok .foreign → member.leave result ≠ .returned (.ok .foreign)

/-- Where neither the members nor the handler make a value that is no response, none is passed
outwards. -/
theorem runMembers_candid (took : Nat → Reading) {handler : Handler σ ρ}
    {chain : List (Interceptor ρ)} (candid : ∀ member ∈ chain, member.IsCandid)
    (call : CallInfo) (metrics : Metrics) {state : σ}
    (handled : (handler state).1 ≠ .returned (.ok .foreign)) :
    (runMembers took handler chain call metrics state).outcome ≠ .returned (.ok .foreign) := by
  induction chain generalizing call with
  | nil => exact handled
  | cons member rest ih =>
    obtain ⟨hm, hr⟩ := List.forall_mem_cons.mp candid
    cases member with
    | logging => exact ih hr call
    | errorHandling =>
      have hi := ih hr call
      rw [runMembers]
      cases ho : (runMembers took handler rest call metrics state).outcome with
      | returned result => exact hi
      | panicked panic => simp only [ne_eq, Outcome.returned.injEq, reduceCtorEq, not_false_iff]
    | metrics =>
      have hi := ih hr call
      rw [runMembers]
      dsimp only
      split
      · simp only [ne_eq, reduceCtorEq, not_false_iff]
      · exact hi
    | custom member =>
      obtain ⟨hf, hl⟩ := hm
      rw [runMembers]
      dsimp only
      cases he : member.enter call with
      | finish result =>
        intro h
        obtain rfl := Outcome.returned.inj h
        exact hf call he
      | panic panic => simp only [ne_eq, reduceCtorEq, not_false_iff]
      | proceed renamed =>
        have hi := ih hr renamed
        dsimp only
        cases ho : (runMembers took handler rest renamed metrics state).outcome with
        | panicked panic =>
          rw [ho] at hi
          exact hi
        | returned result =>
          rw [ho] at hi
          exact hl result fun h => hi (congrArg Outcome.returned h)

/-- The outermost log tells of the beginning of a call before, and of the result that is passed to
it after everything inside. -/
theorem run_logging (took : Nat → Reading) (handler : Handler σ ρ) {rest : List (Interceptor ρ)}
    {path : String} {metrics : Metrics} {state : σ} {result : Result ρ}
    (h : (runMembers took handler rest (.ofPath path) metrics state).outcome = .returned result) :
    let call := CallInfo.ofPath path
    let inner := runMembers took handler rest call metrics state
    run took (.logging :: rest) path handler metrics state =
      ⟨Outcome.ending call (.returned result), .event (begunEvent call) ::
        (inner.steps ++
          [.event (endedEvent call (took rest.length).span.milliseconds result)]),
        inner.metrics, inner.state⟩ := by
  simp only [run, runMembers, h, startedEvent_eq]

/-- Where the log of calls is outermost and no panic escapes, the last thing that is told is its own
event of the result that is passed to it. That event tells how the call really ends exactly when the
result is no value that is no response. Such a value is told as a success, though the caller gets a
status; it comes from nowhere but from a member or a handler that makes one. -/
theorem outermost_log_tells_iff (took : Nat → Reading) (handler : Handler σ ρ)
    (rest : List (Interceptor ρ)) (path : String) (metrics : Metrics) (state : σ)
    (caught : ∀ panic,
      (run took (.logging :: rest) path handler metrics state).ending ≠ .escaped panic) :
    let call := CallInfo.ofPath path
    let inner := runMembers took handler rest call metrics state
    let finished := run took (.logging :: rest) path handler metrics state
    let lasted := (took rest.length).span.milliseconds
    ∃ result told, inner.outcome = .returned result ∧
      finished.steps = .event (begunEvent call) :: (inner.steps ++ [.event told]) ∧
      (told = completedEvent call lasted ∨ ∃ status, told = failedEvent call lasted status) ∧
      (Tells call lasted told finished.ending ↔ result ≠ .ok .foreign) ∧
      (result = .ok .foreign → told = completedEvent call lasted ∧
        finished.ending = .answered (.error ⟨.internal,
          "Internal server error: unexpected response type from " ++ call.method, []⟩)) ∧
      ((∀ member ∈ rest, member.IsCandid) → (handler state).1 ≠ .returned (.ok .foreign) →
        Tells call lasted told finished.ending) := by
  intro call inner finished lasted
  cases ho : inner.outcome with
  | panicked panic => exact absurd (congrArg (Outcome.ending call) ho) (caught panic)
  | returned result =>
    have hf : finished = _ := run_logging took handler ho
    have ht := tells_endedEvent_iff call lasted result
    have hcandid : (∀ member ∈ rest, member.IsCandid) →
        (handler state).1 ≠ .returned (.ok .foreign) → result ≠ .ok .foreign := by
      intro candid handled hr
      have hi := runMembers_candid took candid call metrics handled
      exact hi (ho.trans (congrArg Outcome.returned hr))
    rw [hf]
    refine ⟨result, endedEvent call lasted result, rfl, rfl, ?_, ht, ?_, ?_⟩
    · rcases endedEvent_cases call lasted result with ⟨_, _, he⟩ | ⟨status, _, he⟩
      · exact .inl he
      · exact .inr ⟨status, he⟩
    · rintro rfl
      have hi : "Internal server error: " ++ ("unexpected response type from " ++ call.method) =
          "Internal server error: unexpected response type from " ++ call.method := by
        rw [← String.append_assoc]
        rfl
      refine ⟨rfl, ?_⟩
      rw [← hi]
      rfl
    · exact fun candid handled => ht.mpr (hcandid candid handled)

/-- A member that answers every failed call with the message of its status. -/
def forgiving : Custom String :=
  ⟨"forgiving", .proceed, fun
    | .ok payload => .returned (.ok payload)
    | .error status => .returned (.ok (.response status.message))⟩

/-- A call whose failure is forgiven inside the log is told as one that went well, and goes well. -/
theorem forgiven_call_told :
    let handler : Handler Unit String := fun state =>
      (.returned (.error (.plain .notFound "gone")), [], state)
    let finished := run (fun _ => 7) [.logging, .custom forgiving] "a/B" handler
      (Metrics.ofMethods []) ()
    (∀ panic, finished.ending ≠ .escaped panic) ∧
      ∃ told, finished.steps.getLast? = some (.event told) ∧
        Tells (.ofPath "a/B") (Reading.span 7).milliseconds told finished.ending := by
  intro handler finished
  have caught : ∀ panic, finished.ending ≠ .escaped panic := by
    intro panic h
    have he : Ending.answered (.ok "gone") = .escaped panic := h
    cases he
  obtain ⟨result, told, _, hs, _, _, _, ht⟩ := outermost_log_tells_iff (fun _ => 7) handler
    [.custom forgiving] "a/B" (Metrics.ofMethods []) () caught
  have candid : ∀ member ∈ ([.custom forgiving] : List (Interceptor String)),
      member.IsCandid := by
    refine List.forall_mem_singleton.mpr ⟨fun call h => ?_, ?_⟩
    · have he : Entry.proceed call = .finish (.ok .foreign) := h
      cases he
    · rintro (status | payload) hr h
      · cases h
      · exact hr (Outcome.returned.inj h)
  have handled : (handler ()).1 ≠ .returned (.ok .foreign) := nofun
  refine ⟨caught, told, ?_, ht candid handled⟩
  rw [show finished.steps = _ from hs, ← List.cons_append, List.getLast?_concat]

/-- A member that answers with a value that is no response. -/
def impostor : Custom String := ⟨"impostor", fun _ => .finish (.ok .foreign), .returned⟩

/-- A call that an impostor answers is told as one that went well, and fails. -/
theorem impostor_told_as_success :
    let handler : Handler Unit String := fun state =>
      (.returned (.ok (.response "done")), [], state)
    let finished := run (fun _ => 7) [.logging, .custom impostor] "a/B" handler
      (Metrics.ofMethods []) ()
    (∀ panic, finished.ending ≠ .escaped panic) ∧
      finished.steps.getLast? =
        some (.event (completedEvent (.ofPath "a/B") (Reading.span 7).milliseconds)) ∧
      finished.ending = .answered (.error ⟨.internal,
        "Internal server error: unexpected response type from B", []⟩) ∧
      ∀ lasted, ¬Tells (.ofPath "a/B") lasted (completedEvent (.ofPath "a/B") lasted)
        finished.ending := by
  intro handler finished
  have he : finished.ending = .answered (.error ⟨.internal,
      "Internal server error: unexpected response type from B", []⟩) := rfl
  refine ⟨fun panic h => ?_, rfl, he, fun lasted => ?_⟩
  · rw [he] at h
    cases h
  · rw [he]
    exact completedEvent_ne _ _ _ _ _

end MediaGateway.Chain
