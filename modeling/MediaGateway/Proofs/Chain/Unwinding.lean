import MediaGateway.Proofs.Chain.BuiltIn

/-!
# Panics in a chain

A panic that is raised behind members of a chain unwinds outwards. What it passes
on its way ends without a result and tells nothing of an end; only the members
that count still count. The nearest guard outside makes a status of it, and from
there on the call goes outwards like any call that failed. Where there is no guard
outside, the panic escapes.
-/

namespace MediaGateway.Chain

open Grpc (Status)

variable {σ ρ : Type}

/-! ## What members tell -/

/-- The event of a call that begins. -/
def begunEvent (call : CallInfo) : Event :=
  ⟨.info, .callLog, "gRPC request started",
    [("method", .text call.method), ("full_method", .text call.fullMethod)]⟩

/-- The event of a call that went well, after so many milliseconds. -/
def completedEvent (call : CallInfo) (milliseconds : Binary64) : Event :=
  ⟨.info, .callLog, "gRPC request completed",
    [("method", .text call.method), ("duration_ms", .real milliseconds),
      ("status", .text "SUCCESS")]⟩

/-- The event of a call that failed with a status, after so many milliseconds. -/
def failedEvent (call : CallInfo) (milliseconds : Binary64) (status : Status) : Event :=
  ⟨.error, .callLog, "gRPC request failed",
    [("method", .text call.method), ("duration_ms", .real milliseconds),
      ("error", .text status.message), ("code", .text status.code.name),
      ("status", .text "ERROR")]⟩

/-- The event of a panic that was caught, with the words for it. -/
def guardedEvent (call : CallInfo) (words : String) : Event :=
  ⟨.error, .panicGuard, "Unhandled error in gRPC method",
    [("method", .text call.method), ("error", .text words), ("error_type", .text "panic")]⟩

/-- The words for a panic are its text, where it carries one. -/
inductive Panic.Says : Panic → String → Prop where
  /-- It carries a text. -/
  | text (words : String) : Says (.message words) words
  /-- It carries something else. -/
  | other : Says .unnamed "unknown panic"

/-- There are words for every panic. -/
theorem Panic.says_text (panic : Panic) : panic.Says panic.text := by
  cases panic with
  | message words => exact .text words
  | unnamed => exact .other

/-- The log tells that a call begins. -/
theorem startedEvent_eq (call : CallInfo) : startedEvent call = begunEvent call := rfl

/-- The guard tells of a panic with the words for it. -/
theorem caughtEvent_eq (call : CallInfo) (panic : Panic) :
    caughtEvent call panic = guardedEvent call panic.text := rfl

/-- A fault of the service itself has nothing in its status but words. -/
theorem internalError_eq (words : String) :
    Status.internalError words = ⟨.internal, "Internal server error: " ++ words, []⟩ := rfl

/-- A result is told as a call that went well or as one that failed with its status. -/
theorem endedEvent_cases (call : CallInfo) (milliseconds : Binary64) (result : Result ρ) :
    (∃ payload, result = .ok payload ∧
      endedEvent call milliseconds result = completedEvent call milliseconds) ∨
      ∃ status, result = .error status ∧
        endedEvent call milliseconds result = failedEvent call milliseconds status := by
  cases result with
  | ok payload => exact .inl ⟨payload, rfl, rfl⟩
  | error status => exact .inr ⟨status, rfl, rfl⟩

namespace Interceptor

/-- What a member does with a call that comes in. -/
def enter (call : CallInfo) : Interceptor ρ → Entry ρ
  | .logging => .proceed call
  | .errorHandling => .proceed call
  | .metrics => .proceed call
  | .custom member => member.enter call

/-- What a member tells of a call that comes in. -/
def arrival (call : CallInfo) : Interceptor ρ → List Step
  | .logging => [.event (begunEvent call)]
  | .errorHandling => []
  | .metrics => []
  | .custom member => [markStep member.label "before" call]

/-- How a member ends once the part inside it has ended, and what it tells of that, given the
reading of its stopwatch. -/
def ends (call : CallInfo) (reading : Reading) :
    Interceptor ρ → Outcome ρ → Outcome ρ × List Step
  | .logging, .returned result =>
    (.returned result, [.event (endedEvent call reading.span.milliseconds result)])
  | .errorHandling, .panicked panic =>
    (.returned (.error ⟨.internal, "Internal server error: " ++ panic.text, []⟩),
      [.event (guardedEvent call panic.text)])
  | .custom member, .returned result =>
    (member.leave result, [markStep member.label "after" call])
  | _, outcome => (outcome, [])

/-- What a member counts when a call leaves it, given the reading of its stopwatch. -/
def laps (call : CallInfo) (reading : Reading) : Interceptor ρ → List Metrics.Call
  | .metrics => [⟨call.method, reading.span⟩]
  | .logging => []
  | .errorHandling => []
  | .custom _ => []

end Interceptor

/-- The call as what stands behind members sees it; nothing when one of them does not run what is
inside it. -/
def behind? : List (Interceptor ρ) → CallInfo → Option CallInfo
  | [], call => some call
  | member :: rest, call =>
    match member.enter call with
    | .proceed renamed => behind? rest renamed
    | _ => none

/-- A call passes members one after another. -/
theorem behind_append {front back : List (Interceptor ρ)} {call seen : CallInfo} :
    behind? (front ++ back) call = some seen ↔
      ∃ here, behind? front call = some here ∧ behind? back here = some seen := by
  induction front generalizing call with
  | nil => simp only [List.nil_append, behind?, Option.some.injEq, exists_eq_left']
  | cons member front ih =>
    rw [List.cons_append, behind?, behind?]
    cases member.enter call with
    | proceed renamed => exact ih
    | finish result => simp only [reduceCtorEq, false_and, exists_false]
    | panic panic => simp only [reduceCtorEq, false_and, exists_false]

/-- What members tell of a call that passes them on its way inwards. -/
def arrivals : List (Interceptor ρ) → CallInfo → List Step
  | [], _ => []
  | member :: rest, call =>
    member.arrival call ++
      match member.enter call with
      | .proceed renamed => arrivals rest renamed
      | _ => []

/-- What members count when a call that passed them leaves them, the innermost first. -/
def lapsOf (took : Nat → Reading) : List (Interceptor ρ) → CallInfo → List Metrics.Call
  | [], _ => []
  | member :: rest, call =>
    (match member.enter call with
      | .proceed renamed => lapsOf took rest renamed
      | _ => []) ++ member.laps call (took rest.length)

/-- The steps that notices make. -/
def noticeSteps (notices : List Metrics.Notice) : List Step :=
  notices.flatMap fun notice => notice.events.map .event

/-- The readings of stopwatches further out, where so many members are inside all of them. -/
def further (took : Nat → Reading) (inside : Nat) : Nat → Reading := fun n => took (n + inside)

/-- A handler that ends as a run did. -/
def endingAs (ran : Ran σ ρ) : Handler σ ρ := fun state => (ran.outcome, ran.steps, state)

/-- What members outside a run see of it is how it ended. -/
theorem runMembers_append (took : Nat → Reading) (handler : Handler σ ρ)
    {outer : List (Interceptor ρ)} (inner : List (Interceptor ρ)) {call seen : CallInfo}
    (reached : behind? outer call = some seen) (metrics : Metrics) (state : σ) :
    let ran := runMembers took handler inner seen metrics state
    runMembers took handler (outer ++ inner) call metrics state =
      runMembers (further took inner.length) (endingAs ran) outer call ran.metrics ran.state := by
  intro ran
  induction outer generalizing call with
  | nil =>
    obtain rfl := Option.some.inj reached
    rfl
  | cons member rest ih =>
    rw [behind?] at reached
    have hl : (rest ++ inner).length = rest.length + inner.length := List.length_append
    cases member with
    | logging =>
      rw [List.cons_append, runMembers, runMembers, ih reached, hl]
      rfl
    | errorHandling =>
      rw [List.cons_append, runMembers, runMembers, ih reached]
    | metrics =>
      rw [List.cons_append, runMembers, runMembers, ih reached, hl]
      rfl
    | custom member =>
      rw [List.cons_append, runMembers, runMembers]
      simp only [Interceptor.enter] at reached
      cases he : member.enter call with
      | finish result =>
        rw [he] at reached
        cases reached
      | panic panic =>
        rw [he] at reached
        cases reached
      | proceed renamed =>
        rw [he] at reached
        simp only [ih reached]

/-- What a member makes of the run inside it: it has told of the call before, ends after it, and
counts. -/
def Interceptor.around (call : CallInfo) (reading : Reading) (member : Interceptor ρ)
    (inner : Ran σ ρ) : Ran σ ρ :=
  let recorded := Metrics.recordAll inner.metrics (member.laps call reading)
  let ending := member.ends call reading inner.outcome
  ⟨ending.1, member.arrival call ++ inner.steps ++ ending.2 ++ noticeSteps recorded.2, recorded.1,
    inner.state⟩

/-- A member that runs what is inside it makes something of that run. -/
theorem runMembers_proceed (took : Nat → Reading) (handler : Handler σ ρ)
    {member : Interceptor ρ} {rest : List (Interceptor ρ)} {call renamed : CallInfo}
    (proceeds : member.enter call = .proceed renamed) {metrics : Metrics} (timed : metrics.Timed)
    {state : σ} {inner : Ran σ ρ}
    (hi : runMembers took handler rest renamed metrics state = inner) :
    runMembers took handler (member :: rest) call metrics state =
      member.around call (took rest.length) inner := by
  have ht : inner.metrics.Timed := hi ▸ runMembers_timed took handler rest renamed timed state
  obtain ⟨outcome, steps, counted, after⟩ := inner
  have hn : noticeSteps [] = [] := rfl
  cases member with
  | logging =>
    obtain rfl := Entry.proceed.inj proceeds
    cases outcome <;>
      simp [runMembers, hi, Interceptor.around, Interceptor.ends, Interceptor.arrival,
        Interceptor.laps, Metrics.recordAll, hn, startedEvent_eq]
  | errorHandling =>
    obtain rfl := Entry.proceed.inj proceeds
    cases outcome <;>
      simp [runMembers, hi, Interceptor.around, Interceptor.ends, Interceptor.arrival,
        Interceptor.laps, Metrics.recordAll, hn, caughtEvent_eq, internalError_eq]
  | metrics =>
    obtain rfl := Entry.proceed.inj proceeds
    -- A mean of readings can always be told, so counting does not raise a panic of its own.
    have hs := ht.notice_ne call.method (took rest.length)
    simp [runMembers, hi, Interceptor.around, Interceptor.ends, Interceptor.arrival,
      Interceptor.laps, Metrics.recordAll, noticeSteps]
  | custom member =>
    have he : member.enter call = .proceed renamed := proceeds
    cases outcome <;>
      simp [runMembers, hi, he, Interceptor.around, Interceptor.ends, Interceptor.arrival,
        Interceptor.laps, Metrics.recordAll, hn]

/-- A member that answers on its own ends its part of the chain. -/
theorem runMembers_finish (took : Nat → Reading) (handler : Handler σ ρ)
    {member : Interceptor ρ} {call : CallInfo} {result : Result ρ}
    (finishes : member.enter call = .finish result) (rest : List (Interceptor ρ))
    (metrics : Metrics) (state : σ) :
    runMembers took handler (member :: rest) call metrics state =
      ⟨.returned result, member.arrival call, metrics, state⟩ := by
  cases member with
  | custom member =>
    have he : member.enter call = .finish result := finishes
    rw [runMembers, he]
    rfl
  | _ => cases finishes

/-- A member that panics before it runs what is inside it ends its part of the chain in that
panic. -/
theorem runMembers_panic (took : Nat → Reading) (handler : Handler σ ρ)
    {member : Interceptor ρ} {call : CallInfo} {panic : Panic}
    (panics : member.enter call = .panic panic) (rest : List (Interceptor ρ))
    (metrics : Metrics) (state : σ) :
    runMembers took handler (member :: rest) call metrics state =
      ⟨.panicked panic, member.arrival call, metrics, state⟩ := by
  cases member with
  | custom member =>
    have he : member.enter call = .panic panic := panics
    rw [runMembers, he]
    rfl
  | _ => cases panics

/-- What becomes of a run that panicked when the panic unwinds past members: they have told of the
call on its way inwards, those that count have counted it, and nothing else has happened. -/
def unwound (took : Nat → Reading) (members : List (Interceptor ρ)) (call : CallInfo)
    (ran : Ran σ ρ) : Ran σ ρ :=
  let recorded := Metrics.recordAll ran.metrics (lapsOf took members call)
  ⟨ran.outcome, arrivals members call ++ ran.steps ++ noticeSteps recorded.2, recorded.1,
    ran.state⟩

/-- A member that does not guard lets a panic pass and tells nothing of it. -/
theorem Interceptor.ends_panicked {member : Interceptor ρ} (h : member ≠ .errorHandling)
    (call : CallInfo) (reading : Reading) (panic : Panic) :
    member.ends call reading (.panicked panic) = (.panicked panic, []) := by
  cases member with
  | errorHandling => exact absurd rfl h
  | logging => rfl
  | metrics => rfl
  | custom member => rfl

/-- A panic unwinds past all members that do not guard. -/
theorem runMembers_unwound (took : Nat → Reading) (handler : Handler σ ρ)
    {members inner : List (Interceptor ρ)} (unguarded : .errorHandling ∉ members)
    {call seen : CallInfo} (reached : behind? members call = some seen) {metrics : Metrics}
    (timed : metrics.Timed) {state : σ} {ran : Ran σ ρ}
    (hr : runMembers took handler inner seen metrics state = ran) {panic : Panic}
    (hp : ran.outcome = .panicked panic) :
    runMembers took handler (members ++ inner) call metrics state =
      unwound (further took inner.length) members call ran := by
  induction members generalizing call with
  | nil =>
    obtain rfl := Option.some.inj reached
    rw [List.nil_append, hr]
    simp [unwound, lapsOf, arrivals, Metrics.recordAll, noticeSteps]
  | cons member rest ih =>
    obtain ⟨hm, hu⟩ := not_or.mp (mt List.mem_cons.mpr unguarded)
    rw [behind?] at reached
    cases he : member.enter call with
    | finish result =>
      rw [he] at reached
      cases reached
    | panic other =>
      rw [he] at reached
      cases reached
    | proceed renamed =>
      rw [he] at reached
      have hi := ih hu reached
      have hl : took (rest ++ inner).length = further took inner.length rest.length := by
        rw [List.length_append, further]
      have hn := Interceptor.ends_panicked (Ne.symm hm) call (further took inner.length rest.length)
        panic
      rw [List.cons_append, runMembers_proceed took handler he timed hi]
      simp only [Interceptor.around, unwound, hp, hn, hl, lapsOf, arrivals, he,
        Metrics.recordAll_append, noticeSteps, List.flatMap_append, List.append_assoc,
        List.append_nil]

/-- What stands first in a part of a chain raises a panic of its own: the handler where there are
no members, and else the first member, of the call that comes in or of the result inside it. -/
inductive Raises (took : Nat → Reading) (handler : Handler σ ρ) (metrics : Metrics) (state : σ) :
    List (Interceptor ρ) → CallInfo → Panic → Prop where
  /-- The handler panics. -/
  | handling {call : CallInfo} {panic : Panic} (h : (handler state).1 = .panicked panic) :
    Raises took handler metrics state [] call panic
  /-- A member panics before it runs what is inside it. -/
  | entering {member : Custom ρ} {rest : List (Interceptor ρ)} {call : CallInfo} {panic : Panic}
    (h : member.enter call = .panic panic) :
    Raises took handler metrics state (.custom member :: rest) call panic
  /-- A member panics after it ran what is inside it. -/
  | leaving {member : Custom ρ} {rest : List (Interceptor ρ)} {call renamed : CallInfo}
    {result : Result ρ} {panic : Panic} (proceeds : member.enter call = .proceed renamed)
    (inside : (runMembers took handler rest renamed metrics state).outcome = .returned result)
    (h : member.leave result = .panicked panic) :
    Raises took handler metrics state (.custom member :: rest) call panic

/-- What raises a panic ends in it. -/
theorem Raises.outcome {took : Nat → Reading} {handler : Handler σ ρ} {metrics : Metrics}
    {state : σ} {inner : List (Interceptor ρ)} {call : CallInfo} {panic : Panic}
    (raises : Raises took handler metrics state inner call panic) :
    (runMembers took handler inner call metrics state).outcome = .panicked panic := by
  cases raises with
  | handling h => exact h
  | entering h => simp only [runMembers, h]
  | leaving proceeds inside h => simp only [runMembers, proceeds, inside, h]

/-- A panic behind some members is raised there, or behind members that do not guard. -/
theorem exists_raises_of_panicked (took : Nat → Reading) (handler : Handler σ ρ)
    (chain : List (Interceptor ρ)) (call : CallInfo) {metrics : Metrics} (timed : metrics.Timed)
    (state : σ) {panic : Panic}
    (h : (runMembers took handler chain call metrics state).outcome = .panicked panic) :
    ∃ outer inner seen, chain = outer ++ inner ∧ behind? outer call = some seen ∧
      Raises took handler metrics state inner seen panic ∧ .errorHandling ∉ outer := by
  induction chain generalizing call with
  | nil => exact ⟨[], [], call, rfl, rfl, .handling h, List.not_mem_nil⟩
  | cons member rest ih =>
    cases he : member.enter call with
    | finish result =>
      rw [runMembers_finish took handler he] at h
      cases h
    | panic other =>
      rw [runMembers_panic took handler he] at h
      obtain rfl := Outcome.panicked.inj h
      cases member with
      | custom member => exact ⟨[], _, call, rfl, rfl, .entering he, List.not_mem_nil⟩
      | _ => cases he
    | proceed renamed =>
      rw [runMembers_proceed took handler he timed rfl] at h
      rw [Interceptor.around] at h
      cases ho : (runMembers took handler rest renamed metrics state).outcome with
      | panicked other =>
        rw [ho] at h
        by_cases hm : member = .errorHandling
        · rw [hm] at h
          cases h
        · rw [Interceptor.ends_panicked hm] at h
          obtain rfl := Outcome.panicked.inj h
          obtain ⟨outer, inner, seen, hc, hb, raises, hu⟩ := ih renamed ho
          refine ⟨member :: outer, inner, seen, by rw [hc, List.cons_append], ?_, raises, ?_⟩
          · rw [behind?, he]
            exact hb
          · exact fun hg => (List.mem_cons.mp hg).elim (fun hf => hm hf.symm) hu
      | returned result =>
        rw [ho] at h
        cases member with
        | custom member =>
          exact ⟨[], _, call, rfl, rfl, .leaving he ho h, List.not_mem_nil⟩
        | _ => cases h

/-- What a guard makes of a run that panicked, given the words for the panic: it fails with a status
of these words, and the guard has told of it once. -/
def guardedEnd (guarded : CallInfo) (words : String) (ran : Ran σ ρ) : Ran σ ρ :=
  { ran with
    outcome := .returned (.error ⟨.internal, "Internal server error: " ++ words, []⟩)
    steps := ran.steps ++ [.event ⟨.error, .panicGuard, "Unhandled error in gRPC method",
      [("method", .text guarded.method), ("error", .text words), ("error_type", .text "panic")]⟩] }

/-- A panic that `inner` raises unwinds past the members `between`, is caught by the guard outside
them, and goes on outwards as a failed call. -/
structure Caught (took : Nat → Reading) (handler : Handler σ ρ) (metrics : Metrics) (state : σ)
    (outside between inner : List (Interceptor ρ)) (path : String) (guarded seen : CallInfo)
    (panic : Panic) : Prop where
  /-- Every part between the panic and the guard ends in the panic: its members have told of the
  call on its way inwards and counted it on its way outwards, and nothing else. -/
  unwinds : ∀ front back here, between = front ++ back → behind? front guarded = some here →
    runMembers took handler (back ++ inner) here metrics state =
      unwound (further took inner.length) back here
        (runMembers took handler inner seen metrics state)
  /-- The guard ends in the status of the panic, and tells of it once. -/
  caught : ∃ words, panic.Says words ∧
    runMembers took handler (.errorHandling :: (between ++ inner)) guarded metrics state =
      guardedEnd guarded words (runMembers took handler (between ++ inner) guarded metrics state)
  /-- The members outside run as they do around a handler that ends in that status. -/
  outwards : ∀ ran, runMembers took handler (.errorHandling :: (between ++ inner)) guarded
      metrics state = ran →
    run took (outside ++ .errorHandling :: between ++ inner) path handler metrics state =
      run (further took (between.length + inner.length + 1)) outside path (endingAs ran)
        ran.metrics ran.state
  /-- Each of them that is reached and gets a result runs its last part on it. -/
  finishes : ∀ far member near here renamed result,
    outside = far ++ member :: near → behind? far (.ofPath path) = some here →
      member.enter here = .proceed renamed → ∀ part ran,
        part = near ++ .errorHandling :: (between ++ inner) →
          runMembers took handler part renamed metrics state = ran →
            ran.outcome = .returned result →
              runMembers took handler (member :: part) here metrics state =
                let reading := took part.length
                let recorded := Metrics.recordAll ran.metrics (member.laps here reading)
                let ending := member.ends here reading (.returned result)
                ⟨ending.1, member.arrival here ++ ran.steps ++ ending.2 ++ noticeSteps recorded.2,
                  recorded.1, ran.state⟩

/-- A panic behind a guard is caught by the nearest one outside it. -/
theorem caught_of_raises (took : Nat → Reading) (handler : Handler σ ρ)
    {outside between inner : List (Interceptor ρ)} (unguarded : .errorHandling ∉ between)
    {path : String} {seen : CallInfo}
    (reached : behind? (outside ++ .errorHandling :: between) (.ofPath path) = some seen)
    {metrics : Metrics} (timed : metrics.Timed) {state : σ} {panic : Panic}
    (raises : Raises took handler metrics state inner seen panic) :
    ∃ guarded, behind? outside (.ofPath path) = some guarded ∧
      Caught took handler metrics state outside between inner path guarded seen panic := by
  obtain ⟨guarded, ho, hb⟩ := behind_append.mp reached
  have hg : behind? between guarded = some seen := hb
  have hp := raises.outcome
  refine ⟨guarded, ho, ?_, ?_, ?_, ?_⟩
  · rintro front back here rfl hf
    obtain ⟨other, hh, hs⟩ := behind_append.mp hg
    obtain rfl := Option.some.inj (hf.symm.trans hh)
    have hu : .errorHandling ∉ back := fun hm => unguarded (List.mem_append_right front hm)
    exact runMembers_unwound took handler hu hs timed rfl hp
  · have hu := runMembers_unwound took handler unguarded hg timed rfl hp
    have hr : (runMembers took handler (between ++ inner) guarded metrics state).outcome =
        .panicked panic := by rw [hu]; exact hp
    refine ⟨panic.text, panic.says_text, ?_⟩
    rw [runMembers, hr]
    rfl
  · rintro ran rfl
    have ha := runMembers_append took handler (.errorHandling :: (between ++ inner)) ho metrics
      state
    have hl : (Interceptor.errorHandling :: (between ++ inner)).length =
        between.length + inner.length + 1 := by rw [List.length_cons, List.length_append]
    rw [run, run, List.append_assoc, List.cons_append, ha, hl]
  · rintro far member near here renamed result rfl hf he part ran rfl hr hreturned
    have hm := runMembers_proceed took handler he timed hr
    rw [hm, Interceptor.around, hreturned]

/-- A call ends in a panic that escapes exactly when its chain does. -/
theorem run_escaped_iff (took : Nat → Reading) (handler : Handler σ ρ)
    (chain : List (Interceptor ρ)) (path : String) (metrics : Metrics) (state : σ)
    (panic : Panic) :
    (run took chain path handler metrics state).ending = .escaped panic ↔
      (runMembers took handler chain (.ofPath path) metrics state).outcome = .panicked panic := by
  rw [run]
  generalize (runMembers took handler chain (.ofPath path) metrics state).outcome = outcome
  constructor
  · intro h
    rcases outcome with (status | _ | _) | other
    · cases h
    · cases h
    · cases h
    · obtain rfl := Ending.escaped.inj h
      rfl
  · rintro rfl
    rfl

/-- Whatever the members of a chain are, and whatever calls have left behind: a panic that a member
or the handler raises is caught by the nearest guard outside it and by nothing else. Up to there it
unwinds, from there the call goes outwards as one that failed. A panic escapes from the chain
exactly when one is raised without a guard outside it. -/
theorem panic_caught_by_nearest_guard (took : Nat → Reading) (handler : Handler σ ρ)
    (chain : List (Interceptor ρ)) (path : String) {metrics : Metrics}
    (left : LeftBehind metrics) (state : σ) :
    (∀ outer inner seen panic, chain = outer ++ inner →
      behind? outer (.ofPath path) = some seen →
        Raises took handler metrics state inner seen panic →
          (∀ outside between, outer = outside ++ .errorHandling :: between →
            .errorHandling ∉ between → ∃ guarded, behind? outside (.ofPath path) = some guarded ∧
              Caught took handler metrics state outside between inner path guarded seen panic) ∧
          (.errorHandling ∉ outer →
            runMembers took handler chain (.ofPath path) metrics state =
              unwound (further took inner.length) outer (.ofPath path)
                (runMembers took handler inner seen metrics state) ∧
            (run took chain path handler metrics state).ending = .escaped panic)) ∧
    ∀ panic, (run took chain path handler metrics state).ending = .escaped panic ↔
      ∃ outer inner seen, chain = outer ++ inner ∧ behind? outer (.ofPath path) = some seen ∧
        Raises took handler metrics state inner seen panic ∧ .errorHandling ∉ outer := by
  have timed := left.timed
  have hescapes : ∀ outer inner seen panic, chain = outer ++ inner →
      behind? outer (.ofPath path) = some seen →
        Raises took handler metrics state inner seen panic → .errorHandling ∉ outer →
          runMembers took handler chain (.ofPath path) metrics state =
              unwound (further took inner.length) outer (.ofPath path)
                (runMembers took handler inner seen metrics state) ∧
            (run took chain path handler metrics state).ending = .escaped panic := by
    rintro outer inner seen panic rfl reached raises unguarded
    have hu := runMembers_unwound took handler unguarded reached timed rfl raises.outcome
    refine ⟨hu, (run_escaped_iff took handler _ path metrics state panic).mpr ?_⟩
    rw [hu]
    exact raises.outcome
  refine ⟨fun outer inner seen panic hc reached raises => ⟨?_, ?_⟩, fun panic => ⟨?_, ?_⟩⟩
  · rintro outside between rfl unguarded
    exact caught_of_raises took handler unguarded reached timed raises
  · exact hescapes outer inner seen panic hc reached raises
  · intro h
    rw [run_escaped_iff] at h
    exact exists_raises_of_panicked took handler chain _ timed state h
  · rintro ⟨outer, inner, seen, hc, reached, raises, unguarded⟩
    exact (hescapes outer inner seen panic hc reached raises unguarded).2

/-- A member that panics over every result. -/
def stumbling : Custom ρ := ⟨"stumbling", .proceed, fun _ => .panicked (.message "stumbled")⟩

/-- A handler that panics without a word, in a chain in which a member panics in its turn over the
status that comes of it: each of the panics is caught by the nearest guard. -/
theorem both_panics_caught :
    LeftBehind (Metrics.ofMethods ["B"]) ∧
      let took : Nat → Reading := fun _ => 7
      let handler : Handler Unit String := fun state => (.panicked .unnamed, [], state)
      let chain : List (Interceptor String) :=
        [.errorHandling, .custom stumbling, .errorHandling, .metrics]
      let metrics := Metrics.ofMethods ["B"]
      (∃ guarded, Caught took handler metrics () [.errorHandling, .custom stumbling] [.metrics] []
        "a/B" guarded (.ofPath "a/B") .unnamed) ∧
      (∃ guarded, Caught took handler metrics () [] [] (chain.drop 1) "a/B" guarded (.ofPath "a/B")
        (.message "stumbled")) ∧
      (run took chain "a/B" handler metrics ()).ending =
        .answered (.error ⟨.internal, "Internal server error: stumbled", []⟩) ∧
      (run took chain "a/B" handler metrics ()).steps =
        [.mark "stumbling:before:B",
          .event ⟨.error, .panicGuard, "Unhandled error in gRPC method", [("method", .text "B"),
            ("error", .text "unknown panic"), ("error_type", .text "panic")]⟩,
          .mark "stumbling:after:B",
          .event ⟨.error, .panicGuard, "Unhandled error in gRPC method", [("method", .text "B"),
            ("error", .text "stumbled"), ("error_type", .text "panic")]⟩] := by
  have left : LeftBehind (Metrics.ofMethods ["B"]) := .fresh ["B"]
  have hc := panic_caught_by_nearest_guard (fun _ => 7)
    (fun state => (.panicked .unnamed, [], state) : Handler Unit String)
    [.errorHandling, .custom stumbling, .errorHandling, .metrics] "a/B" left ()
  have hinner := hc.1 [.errorHandling, .custom stumbling, .errorHandling, .metrics] []
    (.ofPath "a/B") .unnamed rfl rfl (.handling rfl)
  have houter := hc.1 [.errorHandling] [.custom stumbling, .errorHandling, .metrics]
    (.ofPath "a/B") (.message "stumbled") rfl rfl (.leaving rfl rfl rfl)
  obtain ⟨first, _, hfirst⟩ := hinner.1 [.errorHandling, .custom stumbling] [.metrics] rfl
    (by simp only [List.mem_singleton, reduceCtorEq, not_false_iff])
  obtain ⟨second, _, hsecond⟩ := houter.1 [] [] rfl List.not_mem_nil
  refine ⟨left, ⟨first, hfirst⟩, ⟨second, hsecond⟩, ?_⟩
  obtain ⟨_, worded, hc⟩ := hsecond.caught
  cases worded
  have ho := hsecond.outwards _ hc
  exact ⟨congrArg Finished.ending ho, rfl⟩

end MediaGateway.Chain
