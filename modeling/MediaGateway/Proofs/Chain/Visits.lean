import MediaGateway.Proofs.Chain.Stepping

/-!
# Visits to members that count

A visit begins when a call enters a member that counts, and lasts until the call
leaves it. Which visits a call makes depends on its chain and its path alone. Each
step of a call keeps a balance between the visits that have begun, those that last
and those that are recorded, and one between the counts and the records.
-/

namespace MediaGateway

namespace Metrics

/-- The numbers of calls that notices tell of a method. -/
def totalsOf (method : String) (notices : List Notice) : List Nat :=
  notices.filterMap fun
    | .summary content => if content.method = method then some content.totalRequests else none
    | _ => none

/-- The numbers of calls at which a summary is due, up to a count. -/
def dueTotals (count : Nat) : List Nat :=
  (List.range (count / summaryEvery)).map fun earlier => summaryEvery * (earlier + 1)

/-- One more call makes a summary due at every hundredth of them. -/
theorem dueTotals_succ (count : Nat) :
    dueTotals (count + 1) =
      dueTotals count ++ if (count + 1) % summaryEvery = 0 then [count + 1] else [] := by
  by_cases h : (count + 1) % summaryEvery = 0
  · have hd : (count + 1) / summaryEvery = count / summaryEvery + 1 := by
      simp only [summaryEvery] at h ⊢
      omega
    have hm : summaryEvery * (count / summaryEvery + 1) = count + 1 := by
      simp only [summaryEvery] at h ⊢
      omega
    rw [if_pos h, dueTotals, hd, List.range_succ, List.map_append, List.map_singleton, hm,
      dueTotals]
  · have hd : (count + 1) / summaryEvery = count / summaryEvery := by
      simp only [summaryEvery] at h ⊢
      omega
    rw [if_neg h, dueTotals, hd, List.append_nil, dueTotals]

/-- What is told of a method goes on with the number of its calls, when a summary is due. -/
theorem Timed.totalsOf_record {metrics : Metrics} (timed : metrics.Timed) (method other : String)
    (reading : Chain.Reading) :
    totalsOf other [(metrics.record method reading.span).2] =
      if other = method ∧ (metrics.requestCount method + 1) % summaryEvery = 0 then
        [metrics.requestCount method + 1]
      else [] := by
  obtain ⟨undue, h⟩ | ⟨averageMs, due, h⟩ := timed.record_cases method reading
  · rw [h, if_neg fun both => undue both.2]
    rfl
  · have hd : (metrics.requestCount method + 1) % summaryEvery = 0 := due
    rw [h]
    by_cases ho : other = method
    · simp only [totalsOf, List.filterMap_cons, List.filterMap_nil, ho, hd, and_self, if_true]
    · simp only [totalsOf, List.filterMap_cons, List.filterMap_nil, Ne.symm ho, ho, false_and,
        if_false]

end Metrics

namespace Chain

variable {σ ρ : Type}

/-! ## The visits of a call -/

/-- The visits of a call to members that count, from the outermost on. -/
def visitsOf : List (Interceptor ρ) → CallInfo → List Visit
  | [], _ => []
  | member :: rest, call =>
    member.visits call rest.length ++
      match member.enter call with
      | .proceed renamed => visitsOf rest renamed
      | _ => []

/-- A call that is stopped by a member visits nothing there or inside of it. -/
theorem visitsOf_stopped {member : Interceptor ρ} {call : CallInfo}
    (stops : ∀ renamed, member.enter call ≠ .proceed renamed) (rest : List (Interceptor ρ)) :
    visitsOf (member :: rest) call = [] := by
  have hm : member ≠ .metrics := by
    rintro rfl
    exact stops call rfl
  rw [visitsOf, Interceptor.visits_eq_nil hm, List.nil_append]
  cases he : member.enter call with
  | proceed renamed => exact absurd he (stops renamed)
  | _ => rfl

/-- A call that is stopped outside all members that count visits none. -/
theorem visitsOf_stopped_outside {outer : List (Interceptor ρ)} {member : Interceptor ρ}
    {call seen : CallInfo} (uncounted : .metrics ∉ outer)
    (reached : behind? outer call = some seen)
    (stops : ∀ renamed, member.enter seen ≠ .proceed renamed) (inner : List (Interceptor ρ)) :
    visitsOf (outer ++ member :: inner) call = [] := by
  induction outer generalizing call with
  | nil =>
    obtain rfl := Option.some.inj reached
    exact visitsOf_stopped stops inner
  | cons first outer ih =>
    obtain ⟨hf, hu⟩ := not_or.mp (mt List.mem_cons.mpr uncounted)
    rw [behind?] at reached
    rw [List.cons_append, visitsOf, Interceptor.visits_eq_nil (Ne.symm hf), List.nil_append]
    cases he : first.enter call with
    | proceed renamed =>
      rw [he] at reached
      exact ih hu reached
    | _ => rfl

/-- A visit is one to a member that counts, and that the call comes to under the name it has
there. -/
theorem mem_visitsOf_iff {chain : List (Interceptor ρ)} {call : CallInfo} {visit : Visit} :
    visit ∈ visitsOf chain call ↔ ∃ outer inner seen, chain = outer ++ .metrics :: inner ∧
      behind? outer call = some seen ∧ visit = ⟨inner.length, seen.method⟩ := by
  induction chain generalizing call with
  | nil =>
    refine iff_of_false List.not_mem_nil ?_
    rintro ⟨outer, inner, _, hc, _⟩
    exact absurd hc.symm (List.append_ne_nil_of_right_ne_nil outer (List.cons_ne_nil _ inner))
  | cons member rest ih =>
    rw [visitsOf, List.mem_append]
    constructor
    · rintro (first | later)
      · cases member with
        | metrics => exact ⟨[], rest, call, rfl, rfl, List.mem_singleton.mp first⟩
        | _ => exact absurd first List.not_mem_nil
      · cases he : member.enter call with
        | proceed renamed =>
          rw [he] at later
          obtain ⟨outer, inner, seen, rfl, hb, hv⟩ := ih.mp later
          refine ⟨member :: outer, inner, seen, rfl, ?_, hv⟩
          rw [behind?, he]
          exact hb
        | _ =>
          rw [he] at later
          exact absurd later List.not_mem_nil
    · rintro ⟨outer, inner, seen, hc, hb, rfl⟩
      cases outer with
      | nil =>
        obtain ⟨rfl, rfl⟩ := List.cons.inj hc
        obtain rfl := Option.some.inj hb
        exact .inl List.mem_cons_self
      | cons first outer =>
        obtain ⟨rfl, rfl⟩ := List.cons.inj hc
        rw [behind?] at hb
        cases he : member.enter call with
        | proceed renamed =>
          rw [he] at hb
          exact .inr (ih.mpr ⟨outer, inner, seen, rfl, hb, rfl⟩)
        | _ =>
          rw [he] at hb
          cases hb

/-- A call visits a member once at most. -/
theorem visitsOf_nodup (chain : List (Interceptor ρ)) (call : CallInfo) :
    (visitsOf chain call).Nodup := by
  induction chain generalizing call with
  | nil => exact List.nodup_nil
  | cons member rest ih =>
    have hr : (match member.enter call with
        | .proceed renamed => visitsOf rest renamed
        | _ => []).Nodup := by
      cases member.enter call with
      | proceed renamed => exact ih renamed
      | _ => exact List.nodup_nil
    by_cases hm : member = .metrics
    · obtain rfl := hm
      -- The members inside a member are fewer than its own place says.
      refine List.nodup_cons.mpr ⟨fun again => ?_, hr⟩
      obtain ⟨outer, inner, _, hc, _, hv⟩ := mem_visitsOf_iff.mp again
      have hl := congrArg List.length hc
      have hi : rest.length = inner.length := congrArg Visit.inside hv
      rw [List.length_append, List.length_cons] at hl
      omega
    · rw [visitsOf, Interceptor.visits_eq_nil hm, List.nil_append]
      exact hr

namespace Thread

/-- The visits that a call has still to make. -/
def ahead : Thread ρ → List Visit
  | .inwards ahead call _ => visitsOf ahead call
  | .outwards _ _ => []
  | .telling _ _ _ => []

/-- The visits that have begun and last, the innermost first. -/
def lasting (thread : Thread ρ) : List Visit := thread.around.flatMap Frame.visits

/-- A call is on its way to the handler. -/
def IsInwards : Thread ρ → Prop
  | .inwards _ _ _ => True
  | .outwards _ _ => False
  | .telling _ _ _ => False

end Thread

/-- What a step does to the visits of a call. -/
structure Balances (thread : Thread ρ) (act : Act) (later : Thread ρ) : Prop where
  /-- A visit that begins was ahead. -/
  begins : act.entered ++ later.ahead = thread.ahead
  /-- A visit lasts from when it begins until it is recorded. -/
  records : act.counted ++ later.lasting = act.entered.reverse ++ thread.lasting
  /-- What is found to be told is about to be told until it is. -/
  tells : act.announced ++ later.pending = thread.pending ++ act.noted
  /-- On its way to the handler a call records nothing. -/
  stays : later.IsInwards → thread.IsInwards ∧ act.counted = []
  /-- Visits begin on the way to the handler. -/
  early : act.entered ≠ [] → thread.IsInwards

/-- A call that turns outwards where nothing is ahead of it begins and records no visit. -/
theorem balances_stopped {ahead : List (Interceptor ρ)} {call : CallInfo}
    (stopped : visitsOf ahead call = []) (outcome : Outcome ρ) (around : List (Frame ρ))
    (steps : List Step) :
    Balances (.inwards ahead call around) (.tells steps) (.outwards outcome around) where
  begins := stopped.symm
  records := rfl
  tells := rfl
  stays := False.elim
  early := fun h => absurd rfl h

/-- Every step keeps the balance. -/
theorem Moves.balances {handler : Handler σ ρ} {thread later : Thread ρ} {world next : World σ}
    {act : Act} (moves : Moves handler thread world act later next) :
    Balances thread act later := by
  cases moves with
  | @passes member ahead call renamed around _ h =>
    obtain ⟨hc, hn, ha⟩ := member.entering_records call ahead.length
    have he := member.entering_entered call ahead.length
    have hv : (member.visits call ahead.length).reverse = member.visits call ahead.length := by
      cases member <;> rfl
    constructor
    · rw [he, Thread.ahead, Thread.ahead, visitsOf, h]
    · rw [hc, he, hv]
      rfl
    · rw [ha, hn]
      rfl
    · exact fun _ => ⟨trivial, hc⟩
    · exact fun _ => trivial
  | @answers member ahead _ _ _ _ h =>
    have hs := visitsOf_stopped (fun renamed hp => nomatch h.symm.trans hp) ahead
    exact balances_stopped hs _ _ _
  | @trips member ahead _ _ _ _ h =>
    have hs := visitsOf_stopped (fun renamed hp => nomatch h.symm.trans hp) ahead
    exact balances_stopped hs _ _ _
  | handles => exact balances_stopped rfl _ _ _
  | @leaves frame outcome around _ h reading =>
    have hv : frame.visits = [] := Interceptor.visits_eq_nil h _ _
    refine ⟨rfl, ?_, rfl, False.elim, fun hn => absurd rfl hn⟩
    rw [Thread.lasting, Thread.lasting, Thread.around, Thread.around, List.flatMap_cons, hv]
    rfl
  | counts reading => exact ⟨rfl, rfl, rfl, False.elim, fun hn => absurd rfl hn⟩
  | announces => exact ⟨rfl, rfl, rfl, False.elim, fun hn => absurd rfl hn⟩

/-- What a call that is somewhere in its chain has done so far about its visits. -/
structure Tallied (visits : List Visit) (acts : List Act) (thread : Thread ρ) : Prop where
  /-- The visits that have begun and those to come are all. -/
  begun : acts.flatMap Act.entered ++ thread.ahead = visits
  /-- The visits that have been recorded and those that last are the ones that have begun. The one
  that began last is recorded first. -/
  recorded : acts.flatMap Act.counted ++ thread.lasting = (acts.flatMap Act.entered).reverse
  /-- No visit is recorded before the call turns outwards. -/
  unrecorded : thread.IsInwards → acts.flatMap Act.counted = []
  /-- What was found to be told has been told, or is about to be. -/
  told : acts.flatMap Act.announced ++ thread.pending = acts.flatMap Act.noted

/-- A call that has done nothing yet. -/
theorem tallied_start (chain : List (Interceptor ρ)) (path : String) :
    Tallied (visitsOf chain (.ofPath path)) [] (.start chain path) where
  begun := rfl
  recorded := rfl
  unrecorded := fun _ => rfl
  told := rfl

/-- A step that keeps the balance is tallied. -/
theorem Tallied.step {visits : List Visit} {acts : List Act} {thread later : Thread ρ} {act : Act}
    (tallied : Tallied visits acts thread) (balances : Balances thread act later) :
    Tallied visits (acts ++ [act]) later := by
  have hs : ∀ {β : Type} (part : Act → List β),
      (acts ++ [act]).flatMap part = acts.flatMap part ++ part act := by
    intro β part
    rw [List.flatMap_append, List.flatMap_singleton]
  constructor
  · rw [hs, List.append_assoc, balances.begins, tallied.begun]
  · rw [hs, hs, List.append_assoc, balances.records, List.reverse_append, ← tallied.recorded]
    by_cases he : act.entered = []
    · rw [he]
      rfl
    · -- A visit that begins is outside none that was recorded, since none was.
      rw [tallied.unrecorded (balances.early he), List.nil_append, List.nil_append]
  · intro inwards
    obtain ⟨before, hc⟩ := balances.stays inwards
    rw [hs, tallied.unrecorded before, hc, List.append_nil]
  · rw [hs, hs, List.append_assoc, balances.tells, ← List.append_assoc, tallied.told]

/-- A call at its end has begun and recorded every visit, and told what there was to tell. -/
theorem Tallied.finished {visits : List Visit} {acts : List Act} {thread : Thread ρ}
    (tallied : Tallied visits acts thread) (finished : thread.Finished) :
    acts.flatMap Act.entered = visits ∧ acts.flatMap Act.counted = visits.reverse ∧
      acts.flatMap Act.announced = acts.flatMap Act.noted := by
  obtain ⟨outcome, rfl⟩ := finished
  have hb := tallied.begun
  have hr := tallied.recorded
  have ht := tallied.told
  rw [Thread.ahead, List.append_nil] at hb
  rw [Thread.lasting, Thread.around, List.flatMap_nil, List.append_nil, hb] at hr
  rw [Thread.pending, List.append_nil] at ht
  exact ⟨hb, hr, ht⟩

/-- A call without visits has recorded nothing, wherever it is. -/
theorem Tallied.counted_eq_nil {acts : List Act} {thread : Thread ρ}
    (tallied : Tallied [] acts thread) : acts.flatMap Act.counted = [] := by
  have hb := (List.append_eq_nil_iff.mp tallied.begun).1
  have hr := tallied.recorded
  rw [hb, List.reverse_nil] at hr
  exact (List.append_eq_nil_iff.mp hr).1

/-! ## The records that calls share -/

/-- What the counts say after steps that were taken in turn. -/
structure Kept (acts : List Act) (metrics : Metrics) : Prop where
  /-- They are counts of readings. -/
  timed : metrics.Timed
  /-- Every method has as many calls as visits under it were recorded. -/
  counted : ∀ method, metrics.requestCount method =
    ((acts.flatMap Act.counted).map (·.method)).count method
  /-- What was found to be told of a method are the numbers of calls at which it is due. -/
  noted : ∀ method, Metrics.totalsOf method (acts.flatMap Act.noted) =
    Metrics.dueTotals (metrics.requestCount method)

/-- Before the first step nothing is counted. -/
theorem kept_ofMethods (methods : List String) : Kept [] (Metrics.ofMethods methods) where
  timed := Metrics.timed_ofMethods methods
  counted := fun method => by
    rw [Metrics.requestCount, Metrics.stats_ofMethods]
    rfl
  noted := fun method => by
    rw [Metrics.requestCount, Metrics.stats_ofMethods]
    rfl

/-- The counts stay right where a step leaves them alone. -/
theorem Kept.silent {acts : List Act} {metrics : Metrics} (kept : Kept acts metrics) {act : Act}
    (uncounted : act.counted = []) (unnoted : act.noted = []) : Kept (acts ++ [act]) metrics where
  timed := kept.timed
  counted := fun method => by
    rw [List.flatMap_append, List.flatMap_singleton, uncounted, List.append_nil, kept.counted]
  noted := fun method => by
    rw [List.flatMap_append, List.flatMap_singleton, unnoted, List.append_nil, kept.noted]

/-- The counts stay right where a step records a visit. -/
theorem Kept.record {acts : List Act} {metrics : Metrics} (kept : Kept acts metrics)
    (visit : Visit) (reading : Reading) :
    let recorded := metrics.record visit.method reading.span
    Kept (acts ++ [.counts visit reading recorded.2]) recorded.1 := by
  intro recorded
  have hc : ∀ other, recorded.1.requestCount other =
      metrics.requestCount other + if other = visit.method then 1 else 0 := by
    intro other
    rw [Metrics.requestCount, Metrics.stats_record, Metrics.requestCount]
    by_cases ho : other = visit.method
    · rw [if_pos ho, if_pos ho, ho, Metrics.Stats.push]
    · rw [if_neg ho, if_neg ho, Nat.add_zero]
  refine ⟨kept.timed.record visit.method reading, fun other => ?_, fun other => ?_⟩
  · rw [List.flatMap_append, List.flatMap_singleton, Act.counted, List.map_append,
      List.count_append, ← kept.counted, hc, List.map_singleton, List.count_singleton]
    by_cases ho : other = visit.method
    · rw [if_pos ho, ho, beq_self_eq_true, if_pos rfl]
    · rw [if_neg ho, beq_eq_false_iff_ne.mpr (Ne.symm ho), if_neg Bool.false_ne_true]
  · have ht := kept.timed.totalsOf_record visit.method other reading
    have ha : Metrics.totalsOf other (acts.flatMap Act.noted ++ [recorded.2]) =
        Metrics.totalsOf other (acts.flatMap Act.noted) ++ Metrics.totalsOf other [recorded.2] :=
      List.filterMap_append
    rw [List.flatMap_append, List.flatMap_singleton, Act.noted, ha, kept.noted, ht, hc]
    by_cases ho : other = visit.method
    · rw [if_pos ho, Metrics.dueTotals_succ, ho]
      simp only [true_and]
    · rw [if_neg ho, if_neg fun h => ho h.1, List.append_nil, Nat.add_zero]

/-- The counts stay right in every step of a call. -/
theorem Kept.step {acts : List Act} {handler : Handler σ ρ} {thread later : Thread ρ}
    {world next : World σ} {act : Act} (kept : Kept acts world.metrics)
    (moves : Moves handler thread world act later next) :
    Kept (acts ++ [act]) next.metrics := by
  cases moves with
  | @passes member ahead call =>
    obtain ⟨hc, hn, _⟩ := member.entering_records call ahead.length
    exact kept.silent hc hn
  | @counts call inside _ _ _ reading => exact kept.record ⟨inside, call.method⟩ reading
  | _ => exact kept.silent rfl rfl

end Chain

end MediaGateway
