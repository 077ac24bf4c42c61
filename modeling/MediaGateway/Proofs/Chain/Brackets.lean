import Mathlib.Data.List.Chain
import MediaGateway.Proofs.Chain.Stepping

/-!
# Brackets around a handler

A call opens a bracket at every member that it enters, and the member closes it when
the part inside it has ended. The brackets are nested: they open in the order of the
chain, close in the reverse order, and the handler stands inside all of them or does
not run. A panic may leave brackets open, but closes none that was not opened.
-/

namespace MediaGateway.Chain

variable {σ ρ : Type}

/-! ## The moments of a run -/

/-- Something that happens to a call at one place of its chain. -/
inductive Moment (ρ : Type) where
  /-- A member is entered. -/
  | before (frame : Frame ρ)
  /-- The handler runs. -/
  | handled
  /-- A member takes up the call once the part inside it has ended. -/
  | after (frame : Frame ρ)

/-- A moment, with what is told in it. -/
structure Happening (ρ : Type) where
  /-- The moment. -/
  moment : Moment ρ
  /-- What is told in it. -/
  steps : List Step

/-- Whether a member takes up the call once the part inside it has ended: every member does so
with a result, and past a panic the guard and the members that count do. -/
def Interceptor.resumes : Interceptor ρ → Outcome ρ → Bool
  | _, .returned _ => true
  | .errorHandling, .panicked _ => true
  | .metrics, .panicked _ => true
  | .logging, .panicked _ => false
  | .custom _, .panicked _ => false

/-- Whether a member that was entered runs what is inside it. -/
def Frame.runs (frame : Frame ρ) : Bool :=
  match frame.member.enter frame.call with
  | .proceed _ => true
  | _ => false

/-- What happens at a member once the part inside it has ended. -/
def Frame.closing (took : Nat → Reading) (frame : Frame ρ) (inner : Ran σ ρ) :
    List (Happening ρ) :=
  if frame.member.resumes inner.outcome then
    [⟨.after frame, (frame.member.ends frame.call (took frame.inside) inner.outcome).2 ++
      noticeSteps (Metrics.recordAll inner.metrics
        (frame.member.laps frame.call (took frame.inside))).2⟩]
  else []

/-- What happens to a call in a run, in order. -/
def happenings (took : Nat → Reading) (handler : Handler σ ρ) (metrics : Metrics) (state : σ) :
    List (Interceptor ρ) → CallInfo → List (Happening ρ)
  | [], _ => [⟨.handled, (handler state).2.1⟩]
  | member :: rest, call =>
    ⟨.before ⟨member, call, rest.length⟩, member.arrival call⟩ ::
      match member.enter call with
      | .proceed renamed =>
        happenings took handler metrics state rest renamed ++
          Frame.closing took ⟨member, call, rest.length⟩
            (runMembers took handler rest renamed metrics state)
      | _ => []

/-- A member that does not take up the call past a panic tells nothing of it. -/
theorem Frame.closing_steps (took : Nat → Reading) (frame : Frame ρ) (inner : Ran σ ρ) :
    (frame.closing took inner).flatMap Happening.steps =
      (frame.member.ends frame.call (took frame.inside) inner.outcome).2 ++
        noticeSteps (Metrics.recordAll inner.metrics
          (frame.member.laps frame.call (took frame.inside))).2 := by
  rw [closing]
  by_cases hr : frame.member.resumes inner.outcome = true
  · rw [if_pos hr, List.flatMap_singleton]
  · rw [if_neg hr, List.flatMap_nil]
    obtain ⟨member, call, inside⟩ := frame
    cases ho : inner.outcome with
    | returned result =>
      rw [ho] at hr
      exact absurd (by cases member <;> rfl) hr
    | panicked panic =>
      rw [ho] at hr
      cases member with
      | errorHandling => exact absurd rfl hr
      | metrics => exact absurd rfl hr
      | logging => rfl
      | custom member => rfl

/-- A member that runs what is inside it tells of the call before and after it, and leaves what the
handler acts on alone. -/
theorem runMembers_told (took : Nat → Reading) (handler : Handler σ ρ) {member : Interceptor ρ}
    {rest : List (Interceptor ρ)} {call renamed : CallInfo}
    (proceeds : member.enter call = .proceed renamed) {metrics : Metrics} {state : σ}
    {inner : Ran σ ρ} (hi : runMembers took handler rest renamed metrics state = inner) :
    (runMembers took handler (member :: rest) call metrics state).steps =
        member.arrival call ++ (inner.steps ++
          (Frame.closing took ⟨member, call, rest.length⟩ inner).flatMap Happening.steps) ∧
      (runMembers took handler (member :: rest) call metrics state).state = inner.state := by
  rw [Frame.closing_steps]
  obtain ⟨outcome, steps, counted, after⟩ := inner
  have hn : noticeSteps [] = [] := rfl
  cases member with
  | logging =>
    obtain rfl := Entry.proceed.inj proceeds
    cases outcome <;>
      simp [runMembers, hi, Interceptor.ends, Interceptor.arrival, Interceptor.laps,
        Metrics.recordAll, hn, startedEvent_eq]
  | errorHandling =>
    obtain rfl := Entry.proceed.inj proceeds
    cases outcome <;>
      simp [runMembers, hi, Interceptor.ends, Interceptor.arrival, Interceptor.laps,
        Metrics.recordAll, hn, caughtEvent_eq]
  | metrics =>
    obtain rfl := Entry.proceed.inj proceeds
    simp [runMembers, hi, Interceptor.ends, Interceptor.arrival, Interceptor.laps,
      Metrics.recordAll, noticeSteps]
  | custom member =>
    have he : member.enter call = .proceed renamed := proceeds
    cases outcome <;>
      simp [runMembers, hi, he, Interceptor.ends, Interceptor.arrival, Interceptor.laps,
        Metrics.recordAll, hn]

/-- What is told in a run is what is told in its moments. -/
theorem runMembers_steps (took : Nat → Reading) (handler : Handler σ ρ)
    (chain : List (Interceptor ρ)) (call : CallInfo) (metrics : Metrics) (state : σ) :
    (runMembers took handler chain call metrics state).steps =
      (happenings took handler metrics state chain call).flatMap Happening.steps := by
  induction chain generalizing call with
  | nil => rw [happenings, List.flatMap_singleton, runMembers]
  | cons member rest ih =>
    rw [happenings, List.flatMap_cons]
    cases he : member.enter call with
    | finish result => rw [runMembers_finish took handler he, List.flatMap_nil, List.append_nil]
    | panic panic => rw [runMembers_panic took handler he, List.flatMap_nil, List.append_nil]
    | proceed renamed =>
      have hi : runMembers took handler rest renamed metrics state = _ := rfl
      have hm := (runMembers_told took handler he hi).1
      rw [hm, ih renamed, List.flatMap_append]

/-! ## Nesting -/

/-- The members that a call enters, from the outermost on. -/
def framesOf : List (Interceptor ρ) → CallInfo → List (Frame ρ)
  | [], _ => []
  | member :: rest, call =>
    ⟨member, call, rest.length⟩ ::
      match member.enter call with
      | .proceed renamed => framesOf rest renamed
      | _ => []

/-- The members that take up a call again on its way outwards, from the innermost on. -/
def framesLeft (took : Nat → Reading) (handler : Handler σ ρ) (metrics : Metrics) (state : σ) :
    List (Interceptor ρ) → CallInfo → List (Frame ρ)
  | [], _ => []
  | member :: rest, call =>
    match member.enter call with
    | .proceed renamed =>
      framesLeft took handler metrics state rest renamed ++
        if member.resumes (runMembers took handler rest renamed metrics state).outcome then
          [⟨member, call, rest.length⟩]
        else []
    | _ => []

/-- Members are entered first, then the handler runs where the call comes to it, and then members
take up the call again. -/
theorem happenings_moments (took : Nat → Reading) (handler : Handler σ ρ) (metrics : Metrics)
    (state : σ) (chain : List (Interceptor ρ)) (call : CallInfo) :
    (happenings took handler metrics state chain call).map Happening.moment =
      (framesOf chain call).map .before ++
        ((if (behind? chain call).isSome then [.handled] else []) ++
          (framesLeft took handler metrics state chain call).map .after) := by
  induction chain generalizing call with
  | nil => rfl
  | cons member rest ih =>
    rw [happenings, framesOf, framesLeft, behind?]
    cases he : member.enter call with
    | finish result => rfl
    | panic panic => rfl
    | proceed renamed =>
      have hc : (Frame.closing took ⟨member, call, rest.length⟩
            (runMembers took handler rest renamed metrics state)).map Happening.moment =
          (if member.resumes (runMembers took handler rest renamed metrics state).outcome then
            [⟨member, call, rest.length⟩] else []).map .after := by
        rw [Frame.closing]
        split <;> rfl
      simp only [List.map_cons, List.map_append, ih renamed, hc, List.cons_append,
        List.append_assoc]

/-- The members that a call enters are the first ones of its chain. -/
theorem framesOf_members (chain : List (Interceptor ρ)) (call : CallInfo) :
    (framesOf chain call).map Frame.member <+: chain := by
  induction chain generalizing call with
  | nil => exact List.prefix_refl []
  | cons member rest ih =>
    rw [framesOf, List.map_cons, List.prefix_cons_inj]
    cases member.enter call with
    | proceed renamed => exact ih renamed
    | _ => exact List.nil_prefix

/-- What is inside a member that a call enters is a part of the chain. -/
theorem inside_lt_of_mem {chain : List (Interceptor ρ)} {call : CallInfo} {frame : Frame ρ}
    (h : frame ∈ framesOf chain call) : frame.inside < chain.length := by
  induction chain generalizing call with
  | nil => exact absurd h List.not_mem_nil
  | cons member rest ih =>
    rw [framesOf] at h
    rw [List.length_cons]
    rcases List.mem_cons.mp h with rfl | deeper
    · exact Nat.lt_succ_self _
    · cases he : member.enter call with
      | proceed renamed =>
        rw [he] at deeper
        have hl := ih deeper
        omega
      | _ =>
        rw [he] at deeper
        exact absurd deeper List.not_mem_nil

/-- A member that a call enters later has fewer members inside it. -/
theorem framesOf_apart (chain : List (Interceptor ρ)) (call : CallInfo) :
    (framesOf chain call).Pairwise fun outer inner => inner.inside < outer.inside := by
  induction chain generalizing call with
  | nil => exact List.Pairwise.nil
  | cons member rest ih =>
    rw [framesOf]
    cases member.enter call with
    | proceed renamed =>
      exact List.pairwise_cons.mpr ⟨fun frame deeper => inside_lt_of_mem deeper, ih renamed⟩
    | _ => exact List.pairwise_singleton _ _

/-- The first member sees the call that comes in. -/
theorem framesOf_head {chain : List (Interceptor ρ)} {call : CallInfo} {frame : Frame ρ}
    (h : frame ∈ (framesOf chain call).head?) : frame.call = call := by
  cases chain with
  | nil => cases h
  | cons member rest =>
    rw [framesOf, List.head?_cons] at h
    obtain rfl := Option.some.inj h
    rfl

/-- Every member sees the call that the nearest one outside it passes on. -/
theorem framesOf_passed (chain : List (Interceptor ρ)) (call : CallInfo) :
    (framesOf chain call).IsChain fun outer inner =>
      outer.member.enter outer.call = .proceed inner.call := by
  induction chain generalizing call with
  | nil => exact List.isChain_nil
  | cons member rest ih =>
    rw [framesOf]
    cases he : member.enter call with
    | proceed renamed =>
      refine List.isChain_cons.mpr ⟨fun inner h => ?_, ih renamed⟩
      rw [framesOf_head h]
      exact he
    | _ => exact List.isChain_singleton _

/-- A call comes to what is behind members when all that it enters run what is inside them. -/
theorem behind_isSome_iff (chain : List (Interceptor ρ)) (call : CallInfo) :
    (behind? chain call).isSome ↔ ∀ frame ∈ framesOf chain call, frame.runs = true := by
  induction chain generalizing call with
  | nil => exact iff_of_true rfl fun frame h => absurd h List.not_mem_nil
  | cons member rest ih =>
    rw [behind?, framesOf, List.forall_mem_cons, Frame.runs]
    cases member.enter call with
    | proceed renamed => exact (ih renamed).trans (and_iff_right rfl).symm
    | _ => exact iff_of_false Bool.false_ne_true fun h => Bool.false_ne_true h.1

/-- A call that comes to what is behind members has entered all of them. -/
theorem framesOf_of_behind {chain : List (Interceptor ρ)} {call seen : CallInfo}
    (reached : behind? chain call = some seen) :
    (framesOf chain call).map Frame.member = chain := by
  induction chain generalizing call with
  | nil => rfl
  | cons member rest ih =>
    rw [behind?] at reached
    rw [framesOf]
    cases he : member.enter call with
    | proceed renamed =>
      rw [he] at reached
      rw [List.map_cons, ih reached]
    | _ =>
      rw [he] at reached
      cases reached

/-- Nothing inside a member that does not run what is inside it is entered. -/
theorem framesOf_silent {chain : List (Interceptor ρ)} {call : CallInfo}
    {front back : List (Frame ρ)} {frame : Frame ρ}
    (h : framesOf chain call = front ++ frame :: back) (stops : frame.runs = false) :
    back = [] := by
  cases back with
  | nil => rfl
  | cons inner back =>
    have hp := framesOf_passed chain call
    rw [h] at hp
    have hr := (List.isChain_append_cons_cons.mp hp).2.1
    rw [Frame.runs, hr] at stops
    exact absurd stops.symm Bool.false_ne_true

/-- Members that take up a call again have run what is inside them, and do so in the reverse
order. -/
theorem framesLeft_sublist (took : Nat → Reading) (handler : Handler σ ρ) (metrics : Metrics)
    (state : σ) (chain : List (Interceptor ρ)) (call : CallInfo) :
    (framesLeft took handler metrics state chain call).reverse.Sublist
      ((framesOf chain call).filter Frame.runs) := by
  induction chain generalizing call with
  | nil => exact List.nil_sublist _
  | cons member rest ih =>
    rw [framesLeft, framesOf, List.filter_cons, Frame.runs]
    cases he : member.enter call with
    | proceed renamed =>
      have hi := ih renamed
      simp only [if_true]
      split
      · rw [List.reverse_append, List.reverse_singleton, List.singleton_append]
        exact hi.cons_cons _
      · rw [List.append_nil]
        exact hi.cons _
    | _ => exact List.nil_sublist _

/-- A member that runs what is inside it takes up the call again unless a panic unwinds past it. -/
theorem mem_framesLeft_iff (took : Nat → Reading) (handler : Handler σ ρ) (metrics : Metrics)
    (state : σ) {outer inner : List (Interceptor ρ)} {member : Interceptor ρ}
    {call here renamed : CallInfo} (reached : behind? outer call = some here)
    (proceeds : member.enter here = .proceed renamed) :
    ⟨member, here, inner.length⟩ ∈
        framesLeft took handler metrics state (outer ++ member :: inner) call ↔
      member.resumes (runMembers took handler inner renamed metrics state).outcome = true := by
  have hinside : ∀ {chain : List (Interceptor ρ)} {seen : CallInfo} {frame : Frame ρ},
      frame ∈ framesLeft took handler metrics state chain seen → frame.inside < chain.length := by
    intro chain seen frame h
    have hs := framesLeft_sublist took handler metrics state chain seen
    have hm := hs.subset (List.mem_reverse.mpr h)
    exact inside_lt_of_mem (List.mem_filter.mp hm).1
  induction outer generalizing call with
  | nil =>
    obtain rfl := Option.some.inj reached
    rw [List.nil_append, framesLeft, proceeds]
    dsimp only
    rw [List.mem_append, or_iff_right fun deeper => Nat.lt_irrefl _ (hinside deeper)]
    split
    next hr => exact iff_of_true List.mem_cons_self hr
    next hr => exact iff_of_false List.not_mem_nil hr
  | cons first outer ih =>
    rw [behind?] at reached
    rw [List.cons_append, framesLeft]
    cases he : first.enter call with
    | proceed passed =>
      rw [he] at reached
      dsimp only
      rw [List.mem_append]
      refine (or_iff_left fun last => ?_).trans (ih reached)
      have hl : inner.length < (outer ++ member :: inner).length := by
        rw [List.length_append, List.length_cons]
        omega
      split at last
      · have hf := congrArg Frame.inside (List.mem_singleton.mp last)
        exact Nat.ne_of_lt hl hf
      · exact List.not_mem_nil last
    | _ =>
      rw [he] at reached
      cases reached

/-- No part of a run ends in a panic. -/
def Calm (took : Nat → Reading) (handler : Handler σ ρ) (metrics : Metrics) (state : σ)
    (chain : List (Interceptor ρ)) (call : CallInfo) : Prop :=
  ∀ outer inner seen, chain = outer ++ inner → behind? outer call = some seen →
    ∃ result, (runMembers took handler inner seen metrics state).outcome = .returned result

/-- Where nothing panics, every member that runs what is inside it takes up the call again. -/
theorem framesLeft_of_calm {took : Nat → Reading} {handler : Handler σ ρ} {metrics : Metrics}
    {state : σ} {chain : List (Interceptor ρ)} {call : CallInfo}
    (calm : Calm took handler metrics state chain call) :
    (framesLeft took handler metrics state chain call).reverse =
      (framesOf chain call).filter Frame.runs := by
  induction chain generalizing call with
  | nil => rfl
  | cons member rest ih =>
    rw [framesLeft, framesOf, List.filter_cons, Frame.runs]
    cases he : member.enter call with
    | proceed renamed =>
      have hb : behind? [member] call = some renamed := by simp only [behind?, he]
      have hc : Calm took handler metrics state rest renamed := by
        intro outer inner seen hs hr
        have ha : behind? ([member] ++ outer) call = some seen :=
          behind_append.mpr ⟨renamed, hb, hr⟩
        exact calm ([member] ++ outer) inner seen (by rw [hs, List.append_assoc]; rfl) ha
      obtain ⟨result, hr⟩ := calm [member] rest renamed rfl hb
      have ht : member.resumes (.returned result) = true := by cases member <;> rfl
      simp only [hr, ht, if_true, List.reverse_append, List.reverse_singleton, ih hc,
        List.singleton_append]
    | _ => rfl

/-- A run acts on what the handler acts on when the call comes to the handler, and then as the
handler does. -/
theorem runMembers_state (took : Nat → Reading) (handler : Handler σ ρ)
    (chain : List (Interceptor ρ)) (call : CallInfo) (metrics : Metrics) (state : σ) :
    (runMembers took handler chain call metrics state).state =
      if (behind? chain call).isSome then (handler state).2.2 else state := by
  induction chain generalizing call with
  | nil => rfl
  | cons member rest ih =>
    rw [behind?]
    cases he : member.enter call with
    | finish result =>
      rw [runMembers_finish took handler he]
      rfl
    | panic panic =>
      rw [runMembers_panic took handler he]
      rfl
    | proceed renamed =>
      have hi : runMembers took handler rest renamed metrics state = _ := rfl
      rw [(runMembers_told took handler he hi).2, ih renamed]

/-- What is told in a moment comes from the place of the moment: from the member that is entered or
takes up the call again, with the time that its stopwatch shows, or from the handler. -/
def Happening.Fits (took : Nat → Reading) (handler : Handler σ ρ) (state : σ)
    (happening : Happening ρ) : Prop :=
  match happening.moment with
  | .before frame => happening.steps = frame.member.arrival frame.call
  | .handled => happening.steps = (handler state).2.1
  | .after ⟨.custom member, call, _⟩ => happening.steps = [markStep member.label "after" call]
  | .after ⟨.logging, call, inside⟩ =>
    happening.steps = [.event (completedEvent call (took inside).span.milliseconds)] ∨
      ∃ status, happening.steps =
        [.event (failedEvent call (took inside).span.milliseconds status)]
  | .after ⟨.errorHandling, call, _⟩ =>
    happening.steps = [] ∨ ∃ words, happening.steps = [.event (guardedEvent call words)]
  | .after ⟨.metrics, _, _⟩ => ∃ notice : Metrics.Notice, happening.steps = notice.events.map .event

/-- What a member tells when it takes up the call again is its own. -/
theorem Frame.closing_fits (took : Nat → Reading) (handler : Handler σ ρ) (state : σ)
    (frame : Frame ρ) (inner : Ran σ ρ) :
    ∀ happening ∈ frame.closing took inner, happening.Fits took handler state := by
  obtain ⟨member, call, inside⟩ := frame
  obtain ⟨outcome, steps, counted, after⟩ := inner
  intro happening h
  rw [closing] at h
  split at h
  next hr =>
    obtain rfl := List.mem_singleton.mp h
    cases member with
    | logging =>
      cases outcome with
      | returned result =>
        rcases endedEvent_cases call (took inside).span.milliseconds result with
          ⟨_, _, he⟩ | ⟨status, _, he⟩
        · exact .inl (congrArg (fun event => [Step.event event]) he)
        · exact .inr ⟨status, congrArg (fun event => [Step.event event]) he⟩
      | panicked panic => exact absurd hr Bool.false_ne_true
    | errorHandling =>
      cases outcome with
      | returned result => exact .inl rfl
      | panicked panic => exact .inr ⟨panic.text, rfl⟩
    | metrics =>
      refine ⟨(counted.record call.method (took inside).span).2, ?_⟩
      cases outcome <;>
        simp only [Interceptor.ends, Interceptor.laps, Metrics.recordAll, noticeSteps,
          List.flatMap_singleton, List.nil_append]
    | custom member =>
      cases outcome with
      | returned result => rfl
      | panicked panic => exact absurd hr Bool.false_ne_true
  next => exact absurd h List.not_mem_nil

/-- Everything that is told in a run is told at its own place. -/
theorem happenings_fit (took : Nat → Reading) (handler : Handler σ ρ) (metrics : Metrics)
    (state : σ) (chain : List (Interceptor ρ)) (call : CallInfo) :
    ∀ happening ∈ happenings took handler metrics state chain call,
      happening.Fits took handler state := by
  induction chain generalizing call with
  | nil =>
    intro happening h
    obtain rfl := List.mem_singleton.mp h
    rfl
  | cons member rest ih =>
    rw [happenings, List.forall_mem_cons]
    refine ⟨rfl, ?_⟩
    cases member.enter call with
    | proceed renamed =>
      intro happening h
      rcases List.mem_append.mp h with inside | closing
      · exact ih renamed happening inside
      · exact Frame.closing_fits took handler state _ _ happening closing
    | _ => exact fun happening h => absurd h List.not_mem_nil

/-- The moments of a run are nested: it enters the members `entered`, runs the handler where
`handled` says so, and then the members `left` take up the call again. -/
structure Nested (took : Nat → Reading) (handler : Handler σ ρ) (metrics : Metrics) (state : σ)
    (chain : List (Interceptor ρ)) (call : CallInfo) (entered : List (Frame ρ)) (handled : Bool)
    (left : List (Frame ρ)) : Prop where
  /-- These are the moments, in this order; so the handler runs once at most. -/
  moments : (happenings took handler metrics state chain call).map Happening.moment =
    entered.map .before ++ ((if handled then [.handled] else []) ++ left.map .after)
  /-- The members that are entered are the first ones of the chain. -/
  ordered : entered.map Frame.member <+: chain
  /-- They are told apart by how many members are inside them. -/
  apart : entered.Pairwise fun outer inner => inner.inside < outer.inside
  /-- The outermost one sees the call that comes in. -/
  first : ∀ frame ∈ entered.head?, frame.call = call
  /-- Every other one sees the call that the nearest one outside it passes on. -/
  passed : entered.IsChain fun outer inner =>
    outer.member.enter outer.call = .proceed inner.call
  /-- The handler runs exactly when every member that is entered runs what is inside it. -/
  handled_iff : handled = true ↔ ∀ frame ∈ entered, frame.runs = true
  /-- Every member has been entered when the handler runs. -/
  whole : handled = true → entered.map Frame.member = chain
  /-- Nothing inside a member that does not run what is inside it is entered, nor handled. -/
  silent : ∀ front frame back, entered = front ++ frame :: back → frame.runs = false →
    back = [] ∧ handled = false
  /-- What the handler acts on is as the handler leaves it, or untouched where it does not run. -/
  acted : (runMembers took handler chain call metrics state).state =
    if handled then (handler state).2.2 else state
  /-- Members that take up the call again were entered and run what is inside them. They do so in
  the reverse order. -/
  reversed : left.reverse.Sublist (entered.filter Frame.runs)
  /-- One that runs what is inside it does not take up the call again only where a panic unwinds
  past it. -/
  closes : ∀ outer member inner here renamed, chain = outer ++ member :: inner →
    behind? outer call = some here → member.enter here = .proceed renamed →
      (⟨member, here, inner.length⟩ ∈ left ↔
        member.resumes (runMembers took handler inner renamed metrics state).outcome = true)
  /-- So all of them do where nothing panics. -/
  complete : Calm took handler metrics state chain call →
    left.reverse = entered.filter Frame.runs

/-- Whatever the members of a chain do with a call, and whatever the handler does: the moments of a
run are nested, and what is told in the run is what is told in them, each at its own place. -/
theorem run_nested (took : Nat → Reading) (handler : Handler σ ρ)
    (chain : List (Interceptor ρ)) (path : String) (metrics : Metrics) (state : σ) :
    let happened := happenings took handler metrics state chain (.ofPath path)
    (run took chain path handler metrics state).steps = happened.flatMap Happening.steps ∧
      (∀ happening ∈ happened, happening.Fits took handler state) ∧
      ∃ entered handled left,
        Nested took handler metrics state chain (.ofPath path) entered handled left := by
  intro happened
  have hb := behind_isSome_iff chain (.ofPath path)
  refine ⟨runMembers_steps took handler chain _ metrics state,
    happenings_fit took handler metrics state chain _, framesOf chain (.ofPath path),
    (behind? chain (.ofPath path)).isSome,
    framesLeft took handler metrics state chain (.ofPath path), ?_⟩
  constructor
  · exact happenings_moments took handler metrics state chain _
  · exact framesOf_members chain _
  · exact framesOf_apart chain _
  · exact fun frame h => framesOf_head h
  · exact framesOf_passed chain _
  · exact hb
  · intro reached
    obtain ⟨seen, hs⟩ := Option.isSome_iff_exists.mp reached
    exact framesOf_of_behind hs
  · intro front frame back h stops
    refine ⟨framesOf_silent h stops, Bool.eq_false_iff.mpr fun reached => ?_⟩
    have hr := hb.mp reached frame (by rw [h]; exact List.mem_append_right _ List.mem_cons_self)
    exact absurd (hr.symm.trans stops).symm Bool.false_ne_true
  · exact runMembers_state took handler chain _ metrics state
  · exact framesLeft_sublist took handler metrics state chain _
  · rintro outer member inner here renamed hc reached proceeds
    rw [hc]
    exact mem_framesLeft_iff took handler metrics state reached proceeds
  · exact framesLeft_of_calm

-- The panic of a member is caught by the guard outside it, so the member further out takes up the
-- call again, under the name that it knows the call by.
example :
    let outer : Custom String := ⟨"outer", fun _ => .proceed (.ofPath "a/C"), .returned⟩
    let inner : Custom String := ⟨"inner", .proceed, fun _ => .panicked .unnamed⟩
    let handler : Handler Unit String := fun state =>
      (.returned (.ok (.response "done")), [.mark "handler"], state)
    marks (run (fun _ => 7) [.custom outer, .errorHandling, .custom inner] "a/B" handler
      (Metrics.ofMethods []) ()).steps =
        ["outer:before:B", "inner:before:C", "handler", "inner:after:C", "outer:after:B"] := rfl

end MediaGateway.Chain
