import MediaGateway.Proofs.Chain.BuiltIn

/-!
# Runs that look the same

Members that log, guard and count look at a result only to see whether it is a
status, and which. So where two handlers leave the same steps and end the same but
for what a mask takes from their responses, whole runs of them do.
-/

namespace MediaGateway.Chain

variable {σ ρ : Type} {mask : ρ → ρ}

/-- A value behind a mask. -/
def Payload.masked (mask : ρ → ρ) : Payload ρ → Payload ρ
  | response content => response (mask content)
  | foreign => foreign

/-- A result behind a mask. -/
def maskedResult (mask : ρ → ρ) : Result ρ → Result ρ := Except.map (Payload.masked mask)

/-- The end of a part of a chain behind a mask. -/
def Outcome.masked (mask : ρ → ρ) : Outcome ρ → Outcome ρ
  | returned result => returned (maskedResult mask result)
  | panicked panic => panicked panic

/-- The end of a whole call behind a mask. -/
def Ending.masked (mask : ρ → ρ) : Ending ρ → Ending ρ
  | answered answer => answered (answer.map mask)
  | escaped panic => escaped panic

/-- Nothing is told of a response that a mask could take from it. -/
theorem endedEvent_masked (call : CallInfo) (lasted : Binary64) (result : Result ρ) :
    endedEvent call lasted (maskedResult mask result) = endedEvent call lasted result := by
  cases result with
  | error status => rfl
  | ok payload => rfl

/-- Masking the end of the members masks the end of the call. -/
theorem Outcome.ending_masked (call : CallInfo) (outcome : Outcome ρ) :
    (outcome.masked mask).ending call = (outcome.ending call).masked mask := by
  rcases outcome with (status | content | _) | panic
  · rfl
  · rfl
  · rfl
  · rfl

/-- Two ends that look the same behind a mask are results that do, or one panic. -/
theorem Outcome.masked_cases {left right : Outcome ρ} (h : left.masked mask = right.masked mask) :
    (∃ result other, left = .returned result ∧ right = .returned other ∧
      maskedResult mask result = maskedResult mask other) ∨
      ∃ panic, left = .panicked panic ∧ right = .panicked panic := by
  cases left with
  | returned result =>
    cases right with
    | returned other => exact .inl ⟨result, other, rfl, rfl, Outcome.returned.inj h⟩
    | panicked panic => cases h
  | panicked panic =>
    cases right with
    | returned other => cases h
    | panicked other => exact .inr ⟨panic, rfl, by rw [Outcome.panicked.inj h]⟩

/-- What two parts of a chain leave behind looks the same: but for the mask they end alike, and the
same was told and counted. -/
structure Ran.SameMasked (mask : ρ → ρ) (left right : Ran σ ρ) : Prop where
  /-- They end alike. -/
  outcome : left.outcome.masked mask = right.outcome.masked mask
  /-- The same was told. -/
  steps : left.steps = right.steps
  /-- The same was counted. -/
  metrics : left.metrics = right.metrics

/-- Members of the service keep up the looks of what is inside them. -/
theorem runMembers_masked (took : Nat → Reading) {left right : Handler σ ρ}
    {chain : List (Interceptor ρ)} (builtIn : ∀ member ∈ chain, member.IsBuiltIn)
    (call : CallInfo) (metrics : Metrics) {state later : σ}
    (ends : (left state).1.masked mask = (right later).1.masked mask)
    (steps : (left state).2.1 = (right later).2.1) :
    (runMembers took left chain call metrics state).SameMasked mask
      (runMembers took right chain call metrics later) := by
  induction chain with
  | nil => exact ⟨ends, steps, rfl⟩
  | cons member rest ih =>
    obtain ⟨ho, hs, hm⟩ := ih fun other deeper => builtIn other (List.mem_cons_of_mem _ deeper)
    have hc := Outcome.masked_cases ho
    cases member with
    | logging =>
      refine ⟨ho, ?_, hm⟩
      simp only [runMembers, hs]
      rcases hc with ⟨result, other, hl, hr, he⟩ | ⟨panic, hl, hr⟩
      · rw [hl, hr]
        dsimp only
        have masked : ∀ (lasted : Binary64) (result : Result ρ), endedEvent call lasted result =
            endedEvent call lasted (maskedResult mask result) :=
          fun lasted result => (endedEvent_masked call lasted result).symm
        rw [masked _ result, he, endedEvent_masked]
      · rw [hl, hr]
    | errorHandling =>
      simp only [runMembers]
      rcases hc with ⟨result, other, hl, hr, he⟩ | ⟨panic, hl, hr⟩
      · rw [hl, hr]
        exact ⟨ho, hs, hm⟩
      · rw [hl, hr]
        exact ⟨rfl, congrArg (· ++ _) hs, hm⟩
    | metrics =>
      simp only [runMembers, hs, hm]
      refine ⟨?_, rfl, rfl⟩
      dsimp only
      split
      · rfl
      · exact ho
    | custom member => exact (builtIn _ List.mem_cons_self).elim

/-- Members of the service leave the state of the handler alone, however it ends. -/
theorem runMembers_builtIn_state (took : Nat → Reading) (handler : Handler σ ρ)
    {chain : List (Interceptor ρ)} (builtIn : ∀ member ∈ chain, member.IsBuiltIn)
    (call : CallInfo) (metrics : Metrics) (state : σ) :
    (runMembers took handler chain call metrics state).state = (handler state).2.2 := by
  induction chain with
  | nil => rfl
  | cons member rest ih =>
    have hi := ih fun other deeper => builtIn other (List.mem_cons_of_mem _ deeper)
    cases member with
    | logging => exact hi
    | errorHandling =>
      rw [runMembers]
      split <;> exact hi
    | metrics => exact hi
    | custom member => exact (builtIn _ List.mem_cons_self).elim

end MediaGateway.Chain
