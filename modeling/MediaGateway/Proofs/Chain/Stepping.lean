import MediaGateway.Proofs.Chain.Unwinding

/-!
# A call, step by step

A call enters the members of its chain, runs its handler, and leaves the members it
has entered, one step after another. It shares the counts and what the handler acts
on with other calls, which may take steps of theirs between any two of its own. A
member that counts records a call in one step when the call leaves it; what it has to
tell of that it tells in a step of its own.

A call that runs alone does what a run of its chain does.
-/

namespace MediaGateway.Chain

variable {σ ρ : Type}

/-! ## One step of a call -/

/-- What calls that run at the same time share. -/
structure World (σ : Type) where
  /-- The counts. -/
  metrics : Metrics
  /-- What the handlers act on. -/
  state : σ

/-- A member that counts, as a call comes to it. -/
structure Visit where
  /-- How many members are inside it. -/
  inside : Nat
  /-- The method of the call, as the member sees it. -/
  method : String
  deriving DecidableEq

/-- What a call does in one step. -/
inductive Act where
  /-- It enters a member that counts. -/
  | enters (visit : Visit)
  /-- It leaves a member that counts, and is recorded. -/
  | counts (visit : Visit) (reading : Reading) (notice : Metrics.Notice)
  /-- The member that recorded it tells what there is to tell of that. -/
  | announces (notice : Metrics.Notice)
  /-- It leaves a member that does not count. -/
  | closes (inside : Nat) (reading : Reading) (steps : List Step)
  /-- It does anything else. -/
  | tells (steps : List Step)

namespace Act

/-- The visit that begins in a step. -/
def entered : Act → List Visit
  | enters visit => [visit]
  | _ => []

/-- The visit that is recorded in a step. -/
def counted : Act → List Visit
  | counts visit _ _ => [visit]
  | _ => []

/-- What is found in a step to be told. -/
def noted : Act → List Metrics.Notice
  | counts _ _ notice => [notice]
  | _ => []

/-- What is told in a step of what has been recorded. -/
def announced : Act → List Metrics.Notice
  | announces notice => [notice]
  | _ => []

/-- What a step tells. -/
def steps : Act → List Step
  | announces notice => notice.events.map .event
  | closes _ _ steps => steps
  | tells steps => steps
  | _ => []

/-- A stopwatch that is read in a step shows what it is said to show. -/
def Shows (took : Nat → Reading) : Act → Prop
  | counts visit reading _ => took visit.inside = reading
  | closes inside reading _ => took inside = reading
  | _ => True

end Act

namespace Interceptor

/-- The visit of a call to a member, where the member counts. -/
def visits (call : CallInfo) (inside : Nat) : Interceptor ρ → List Visit
  | .metrics => [⟨inside, call.method⟩]
  | _ => []

/-- What a call does when it enters a member. -/
def entering (call : CallInfo) (inside : Nat) : Interceptor ρ → Act
  | .metrics => .enters ⟨inside, call.method⟩
  | member => .tells (member.arrival call)

/-- A call that enters a member tells what members tell of a call that comes in. -/
theorem entering_steps (member : Interceptor ρ) (call : CallInfo) (inside : Nat) :
    (member.entering call inside).steps = member.arrival call := by
  cases member <;> rfl

/-- A call that enters a member begins a visit there, if the member counts. -/
theorem entering_entered (member : Interceptor ρ) (call : CallInfo) (inside : Nat) :
    (member.entering call inside).entered = member.visits call inside := by
  cases member <;> rfl

/-- Nothing is recorded or told of a record when a call enters a member. -/
theorem entering_records (member : Interceptor ρ) (call : CallInfo) (inside : Nat) :
    (member.entering call inside).counted = [] ∧ (member.entering call inside).noted = [] ∧
      (member.entering call inside).announced = [] := by
  cases member <;> exact ⟨rfl, rfl, rfl⟩

/-- Only a member that counts is visited. -/
theorem visits_eq_nil {member : Interceptor ρ} (h : member ≠ .metrics) (call : CallInfo)
    (inside : Nat) : member.visits call inside = [] := by
  cases member with
  | metrics => exact absurd rfl h
  | _ => rfl

end Interceptor

/-- A member that a call has entered and not left. -/
structure Frame (ρ : Type) where
  /-- The member. -/
  member : Interceptor ρ
  /-- The call as the member sees it. -/
  call : CallInfo
  /-- How many members are inside it. -/
  inside : Nat

/-- The visit that lasts as long as a call is inside a member. -/
def Frame.visits (frame : Frame ρ) : List Visit := frame.member.visits frame.call frame.inside

/-- How far a call has come. The members it is inside of are listed from the innermost on. -/
inductive Thread (ρ : Type) where
  /-- It is on its way to the handler. -/
  | inwards (ahead : List (Interceptor ρ)) (call : CallInfo) (around : List (Frame ρ))
  /-- A part of the chain has ended, and the members around it are still to be left. -/
  | outwards (outcome : Outcome ρ) (around : List (Frame ρ))
  /-- A member has recorded the call, and is about to tell of it. -/
  | telling (notice : Metrics.Notice) (outcome : Outcome ρ) (around : List (Frame ρ))

/-- How a part of a chain ends once the member that counts has told of it. -/
def afterNotice (outcome : Outcome ρ) : Metrics.Notice → Outcome ρ
  | .meanTooLarge => .panicked (.message Metrics.tooLargeText)
  | _ => outcome

/-- One step of a call, in what it shares with others. -/
inductive Moves (handler : Handler σ ρ) :
    Thread ρ → World σ → Act → Thread ρ → World σ → Prop where
  /-- It enters a member that runs what is inside it. -/
  | passes {member : Interceptor ρ} {ahead : List (Interceptor ρ)} {call renamed : CallInfo}
    {around : List (Frame ρ)} {world : World σ} (h : member.enter call = .proceed renamed) :
    Moves handler (.inwards (member :: ahead) call around) world
      (member.entering call ahead.length)
      (.inwards ahead renamed (⟨member, call, ahead.length⟩ :: around)) world
  /-- A member answers on its own. -/
  | answers {member : Interceptor ρ} {ahead : List (Interceptor ρ)} {call : CallInfo}
    {result : Result ρ} {around : List (Frame ρ)} {world : World σ}
    (h : member.enter call = .finish result) :
    Moves handler (.inwards (member :: ahead) call around) world (.tells (member.arrival call))
      (.outwards (.returned result) around) world
  /-- A member panics before it runs what is inside it. -/
  | trips {member : Interceptor ρ} {ahead : List (Interceptor ρ)} {call : CallInfo}
    {panic : Panic} {around : List (Frame ρ)} {world : World σ}
    (h : member.enter call = .panic panic) :
    Moves handler (.inwards (member :: ahead) call around) world (.tells (member.arrival call))
      (.outwards (.panicked panic) around) world
  /-- The handler runs. -/
  | handles {call : CallInfo} {around : List (Frame ρ)} {world : World σ} :
    Moves handler (.inwards [] call around) world (.tells (handler world.state).2.1)
      (.outwards (handler world.state).1 around) ⟨world.metrics, (handler world.state).2.2⟩
  /-- It leaves a member that does not count, whatever the stopwatch shows. -/
  | leaves {frame : Frame ρ} {outcome : Outcome ρ} {around : List (Frame ρ)} {world : World σ}
    (h : frame.member ≠ .metrics) (reading : Reading) :
    Moves handler (.outwards outcome (frame :: around)) world
      (.closes frame.inside reading (frame.member.ends frame.call reading outcome).2)
      (.outwards (frame.member.ends frame.call reading outcome).1 around) world
  /-- It leaves a member that counts, whatever the stopwatch shows. -/
  | counts {call : CallInfo} {inside : Nat} {outcome : Outcome ρ} {around : List (Frame ρ)}
    {world : World σ} (reading : Reading) :
    Moves handler (.outwards outcome (⟨.metrics, call, inside⟩ :: around)) world
      (.counts ⟨inside, call.method⟩ reading
        (world.metrics.record call.method reading.span).2)
      (.telling (world.metrics.record call.method reading.span).2 outcome around)
      ⟨(world.metrics.record call.method reading.span).1, world.state⟩
  /-- The member that recorded it tells of it. -/
  | announces {notice : Metrics.Notice} {outcome : Outcome ρ} {around : List (Frame ρ)}
    {world : World σ} :
    Moves handler (.telling notice outcome around) world (.announces notice)
      (.outwards (afterNotice outcome notice) around) world

/-- Counts stay counts of readings in every step. -/
theorem Moves.timed {handler : Handler σ ρ} {thread later : Thread ρ} {world next : World σ}
    {act : Act} (moves : Moves handler thread world act later next)
    (timed : world.metrics.Timed) : next.metrics.Timed := by
  cases moves with
  | counts reading => exact timed.record _ reading
  | _ => exact timed

namespace Thread

/-- A call that is about to enter a chain. -/
def start (chain : List (Interceptor ρ)) (path : String) : Thread ρ :=
  .inwards chain (.ofPath path) []

/-- A call has left all members. -/
def Finished (thread : Thread ρ) : Prop := ∃ outcome, thread = .outwards outcome []

/-- The members that a call is inside of. -/
def around : Thread ρ → List (Frame ρ)
  | .inwards _ _ around => around
  | .outwards _ around => around
  | .telling _ _ around => around

/-- What a call is about to tell of its record. -/
def pending : Thread ρ → List Metrics.Notice
  | .inwards _ _ _ => []
  | .outwards _ _ => []
  | .telling notice _ _ => [notice]

/-- How many steps a call takes at most from where it is. -/
def stepsLeft : Thread ρ → Nat
  | .inwards ahead _ around => 3 * ahead.length + 2 * around.length + 1
  | .outwards _ around => 2 * around.length
  | .telling _ _ around => 2 * around.length + 1

end Thread

/-- Every step brings a call nearer to its end. -/
theorem Moves.stepsLeft {handler : Handler σ ρ} {thread later : Thread ρ} {world next : World σ}
    {act : Act} (moves : Moves handler thread world act later next) :
    later.stepsLeft < thread.stepsLeft := by
  cases moves <;> simp only [Thread.stepsLeft, List.length_cons] <;> omega

/-- A call that has not come to its end can take a step, whatever the others have done. -/
theorem Thread.exists_moves (took : Nat → Reading) (handler : Handler σ ρ) (thread : Thread ρ)
    (unfinished : ¬thread.Finished) (world : World σ) :
    ∃ act later next, Moves handler thread world act later next ∧ act.Shows took := by
  cases thread with
  | inwards ahead call around =>
    cases ahead with
    | nil => exact ⟨_, _, _, .handles, trivial⟩
    | cons member ahead =>
      cases he : member.enter call with
      | finish result => exact ⟨_, _, _, .answers he, trivial⟩
      | panic panic => exact ⟨_, _, _, .trips he, trivial⟩
      | proceed renamed =>
        refine ⟨_, _, _, .passes he, ?_⟩
        cases member <;> exact trivial
  | outwards outcome around =>
    cases around with
    | nil => exact absurd ⟨outcome, rfl⟩ unfinished
    | cons frame around =>
      by_cases hm : frame.member = .metrics
      · obtain ⟨member, call, inside⟩ := frame
        obtain rfl := hm
        exact ⟨_, _, _, .counts (took inside), rfl⟩
      · exact ⟨_, _, _, .leaves hm (took frame.inside), rfl⟩
  | telling notice outcome around => exact ⟨_, _, _, .announces, trivial⟩

/-! ## A call that runs alone -/

/-- A call takes steps while no other one does, and its stopwatches show what they are said to
show. -/
inductive Alone (took : Nat → Reading) (handler : Handler σ ρ) :
    Thread ρ → World σ → List Act → Thread ρ → World σ → Prop where
  /-- It has taken no step. -/
  | stays {thread : Thread ρ} {world : World σ} : Alone took handler thread world [] thread world
  /-- It takes a step, and goes on from there. -/
  | goes {thread between later : Thread ρ} {world next last : World σ} {act : Act}
    {acts : List Act} (moves : Moves handler thread world act between next)
    (shows : act.Shows took) (on : Alone took handler between next acts later last) :
    Alone took handler thread world (act :: acts) later last

/-- A run that goes on after some steps. -/
def Ran.after (steps : List Step) (ran : Ran σ ρ) : Ran σ ρ :=
  { ran with steps := steps ++ ran.steps }

/-- What leaving a member makes of the run inside it. -/
def Frame.leaving (took : Nat → Reading) (frame : Frame ρ) (ran : Ran σ ρ) : Ran σ ρ :=
  let reading := took frame.inside
  let recorded := Metrics.recordAll ran.metrics (frame.member.laps frame.call reading)
  let ending := frame.member.ends frame.call reading ran.outcome
  ⟨ending.1, ran.steps ++ ending.2 ++ noticeSteps recorded.2, recorded.1, ran.state⟩

/-- What leaving several members makes of the run inside them. -/
def leavingAll (took : Nat → Reading) : List (Frame ρ) → Ran σ ρ → Ran σ ρ
  | [], ran => ran
  | frame :: around, ran => leavingAll took around (frame.leaving took ran)

/-- Steps before a run stay before it when members are left. -/
theorem leavingAll_after (took : Nat → Reading) (around : List (Frame ρ)) (steps : List Step)
    (ran : Ran σ ρ) :
    leavingAll took around (ran.after steps) = (leavingAll took around ran).after steps := by
  induction around generalizing ran with
  | nil => rfl
  | cons frame around ih =>
    have hl : frame.leaving took (ran.after steps) = (frame.leaving took ran).after steps := by
      simp only [Frame.leaving, Ran.after, List.append_assoc]
    rw [leavingAll, hl, ih, leavingAll]

/-- What comes of a call that goes on alone to its end. -/
def Thread.toEnd (took : Nat → Reading) (handler : Handler σ ρ) (world : World σ) :
    Thread ρ → Ran σ ρ
  | .inwards ahead call around =>
    leavingAll took around (runMembers took handler ahead call world.metrics world.state)
  | .outwards outcome around => leavingAll took around ⟨outcome, [], world.metrics, world.state⟩
  | .telling notice outcome around =>
    leavingAll took around
      ⟨outcome, notice.events.map .event, world.metrics, world.state⟩

/-- No step finds a mean that is too large to be told. -/
theorem Moves.tellable {handler : Handler σ ρ} {thread later : Thread ρ} {world next : World σ}
    {act : Act} (moves : Moves handler thread world act later next)
    (timed : world.metrics.Timed) : .meanTooLarge ∉ later.pending := by
  cases moves with
  | counts reading =>
    intro member
    exact timed.notice_ne _ reading (List.mem_singleton.mp member).symm
  | _ => exact List.not_mem_nil

/-- A step does the first part of what comes of a call. -/
theorem Moves.toEnd_eq {took : Nat → Reading} {handler : Handler σ ρ} {thread later : Thread ρ}
    {world next : World σ} {act : Act} (moves : Moves handler thread world act later next)
    (shows : act.Shows took) (timed : world.metrics.Timed)
    (tellable : .meanTooLarge ∉ thread.pending) :
    thread.toEnd took handler world = (later.toEnd took handler next).after act.steps := by
  cases moves with
  | @passes member ahead call renamed around _ h =>
    have hm : runMembers took handler (member :: ahead) call world.metrics world.state =
        member.around call (took ahead.length)
          (runMembers took handler ahead renamed world.metrics world.state) :=
      runMembers_proceed took handler h timed rfl
    have hf : ∀ ran : Ran σ ρ, member.around call (took ahead.length) ran =
        ((⟨member, call, ahead.length⟩ : Frame ρ).leaving took ran).after
          (member.arrival call) := by
      intro ran
      simp only [Interceptor.around, Frame.leaving, Ran.after, List.append_assoc]
    rw [Thread.toEnd, hm, hf, leavingAll_after, Interceptor.entering_steps, Thread.toEnd,
      leavingAll]
  | answers h =>
    rw [Thread.toEnd, runMembers_finish took handler h, Thread.toEnd, ← leavingAll_after]
    simp only [Ran.after, Act.steps, List.append_nil]
  | trips h =>
    rw [Thread.toEnd, runMembers_panic took handler h, Thread.toEnd, ← leavingAll_after]
    simp only [Ran.after, Act.steps, List.append_nil]
  | @handles call around _ =>
    rw [Thread.toEnd, Thread.toEnd, ← leavingAll_after, runMembers]
    simp only [Ran.after, Act.steps, List.append_nil]
  | @leaves frame outcome around _ h reading =>
    have hr : took frame.inside = reading := shows
    have hl : frame.member.laps frame.call reading = [] := by
      cases hm : frame.member with
      | metrics => exact absurd hm h
      | _ => rfl
    have hn : noticeSteps [] = [] := rfl
    rw [Thread.toEnd, leavingAll, Thread.toEnd, ← leavingAll_after]
    simp only [Frame.leaving, hr, hl, Metrics.recordAll, hn, Ran.after, Act.steps,
      List.nil_append, List.append_nil]
  | @counts call inside outcome around _ reading =>
    have hr : took inside = reading := shows
    rw [Thread.toEnd, leavingAll, Thread.toEnd, ← leavingAll_after]
    simp only [Frame.leaving, Interceptor.ends, Interceptor.laps, hr, Metrics.recordAll,
      noticeSteps, List.flatMap_cons, List.flatMap_nil, Ran.after, Act.steps, List.nil_append,
      List.append_nil]
  | @announces notice outcome around _ =>
    have hn : notice ≠ .meanTooLarge := fun h => tellable (List.mem_singleton.mpr h.symm)
    have ho : afterNotice outcome notice = outcome := by
      cases notice with
      | meanTooLarge => exact absurd rfl hn
      | _ => rfl
    rw [Thread.toEnd, Thread.toEnd, ← leavingAll_after, ho]
    simp only [Ran.after, Act.steps, List.append_nil]

/-- Steps of a call that runs alone do the first part of what comes of it. -/
theorem Alone.toEnd_eq {took : Nat → Reading} {handler : Handler σ ρ} {thread later : Thread ρ}
    {world last : World σ} {acts : List Act}
    (alone : Alone took handler thread world acts later last) (timed : world.metrics.Timed)
    (tellable : .meanTooLarge ∉ thread.pending) :
    thread.toEnd took handler world =
      (later.toEnd took handler last).after (acts.flatMap Act.steps) := by
  induction alone with
  | stays => rfl
  | goes moves shows on ih =>
    rw [moves.toEnd_eq shows timed tellable, ih (moves.timed timed) (moves.tellable timed)]
    simp only [Ran.after, List.flatMap_cons, List.append_assoc]

/-- A call that runs alone comes to its end. -/
theorem Alone.exists_finished (took : Nat → Reading) (handler : Handler σ ρ) (thread : Thread ρ)
    (world : World σ) :
    ∃ acts outcome last, Alone took handler thread world acts (.outwards outcome []) last ∧
      acts.length ≤ thread.stepsLeft := by
  induction hn : thread.stepsLeft using Nat.strongRecOn generalizing thread world with
  | ind left ih =>
    by_cases hf : thread.Finished
    · obtain ⟨outcome, rfl⟩ := hf
      exact ⟨[], outcome, world, .stays, Nat.zero_le _⟩
    · obtain ⟨act, between, next, moves, shows⟩ := thread.exists_moves took handler hf world
      have hl : between.stepsLeft < left := hn ▸ moves.stepsLeft
      obtain ⟨acts, outcome, last, on, hb⟩ := ih between.stepsLeft hl between next rfl
      refine ⟨act :: acts, outcome, last, .goes moves shows on, ?_⟩
      rw [List.length_cons]
      omega

/-- A call that runs alone through a chain does what a run of the chain does: it comes to an end,
and whenever it does, it ends as the run does, it has told the same, and it has left the same
behind. -/
theorem alone_runs_members (took : Nat → Reading) (handler : Handler σ ρ)
    (chain : List (Interceptor ρ)) (path : String) {metrics : Metrics} (timed : metrics.Timed)
    (state : σ) :
    (∃ acts outcome last,
      Alone took handler (.start chain path) ⟨metrics, state⟩ acts (.outwards outcome []) last) ∧
      ∀ acts outcome last,
        Alone took handler (.start chain path) ⟨metrics, state⟩ acts (.outwards outcome []) last →
          runMembers took handler chain (.ofPath path) metrics state =
            ⟨outcome, acts.flatMap Act.steps, last.metrics, last.state⟩ := by
  constructor
  · obtain ⟨acts, outcome, last, alone, _⟩ := Alone.exists_finished took handler
      (.start chain path) ⟨metrics, state⟩
    exact ⟨acts, outcome, last, alone⟩
  · intro acts outcome last alone
    have he := alone.toEnd_eq timed List.not_mem_nil
    simp only [Thread.start, Thread.toEnd, leavingAll, Ran.after, List.append_nil] at he
    exact he

end MediaGateway.Chain
