import MediaGateway.Proofs.Chain.Visits

/-!
# Calls that take turns

Any number of calls run at the same time, and any of them may take the next step.
However they take turns, every visit to a member that counts is recorded once, and
nothing else is.
-/

namespace MediaGateway.Chain

variable {σ : Type}

/-- Calls that run at the same time. -/
structure Pool (σ : Type) {n : Nat} (ρ : Fin n → Type) where
  /-- How far each of them has come. -/
  threads : (i : Fin n) → Thread (ρ i)
  /-- What they share. -/
  world : World σ

section Pool

variable {n : Nat} {ρ : Fin n → Type}

/-- Calls none of which has done anything yet. -/
def Pool.start (chain : (i : Fin n) → List (Interceptor (ρ i))) (path : Fin n → String)
    (methods : List String) (state : σ) : Pool σ ρ :=
  ⟨fun i => .start (chain i) (path i), ⟨Metrics.ofMethods methods, state⟩⟩

/-- One call takes a step, and the others stay where they are. -/
structure Pool.Moves (handler : (i : Fin n) → Handler σ (ρ i)) (pool : Pool σ ρ) (i : Fin n)
    (act : Act) (later : Pool σ ρ) : Prop where
  /-- The call takes the step in what all of them share. -/
  moves : Chain.Moves (handler i) (pool.threads i) pool.world act (later.threads i) later.world
  /-- The others stay. -/
  stay : ∀ other, other ≠ i → later.threads other = pool.threads other

/-- Calls take turns in any order. The steps are listed with the calls that take them. -/
inductive Runs (handler : (i : Fin n) → Handler σ (ρ i)) (start : Pool σ ρ) :
    List (Fin n × Act) → Pool σ ρ → Prop where
  /-- No step has been taken. -/
  | start : Runs handler start [] start
  /-- One of them takes one more step. -/
  | step {history : List (Fin n × Act)} {pool later : Pool σ ρ} {i : Fin n} {act : Act}
    (before : Runs handler start history pool) (moves : pool.Moves handler i act later) :
    Runs handler start (history ++ [(i, act)]) later

/-- The steps of a history, whoever takes them. -/
def allActs (history : List (Fin n × Act)) : List Act := history.map (·.2)

/-- The steps that one call takes in a history. -/
def actsOf (i : Fin n) (history : List (Fin n × Act)) : List Act :=
  (history.filter (·.1 = i)).map (·.2)

/-- One more step is one of the call that takes it. -/
theorem actsOf_append (i j : Fin n) (history : List (Fin n × Act)) (act : Act) :
    actsOf i (history ++ [(j, act)]) =
      if j = i then actsOf i history ++ [act] else actsOf i history := by
  by_cases h : j = i
  · simp only [actsOf, List.filter_append, List.map_append, List.filter_cons, h, decide_true,
      if_true, List.filter_nil, List.map_singleton]
  · simp only [actsOf, List.filter_append, List.filter_cons, h, decide_false, Bool.false_eq_true,
      if_false, List.filter_nil, List.append_nil]

/-- Steps that were taken in turn are the steps of one call, and of another one, and so on. -/
theorem flatMap_allActs_perm {β : Type} {part : Act → List β} {history : List (Fin n × Act)}
    {parts : Fin n → List β} (h : ∀ i, ((actsOf i history).flatMap part).Perm (parts i)) :
    ((allActs history).flatMap part).Perm ((List.finRange n).flatMap parts) := by
  have hsome : ∀ calls : List (Fin n), calls.Nodup →
      ((allActs (history.filter (·.1 ∈ calls))).flatMap part).Perm (calls.flatMap parts) := by
    intro calls nodup
    induction calls with
    | nil =>
      have hf : history.filter (·.1 ∈ ([] : List (Fin n))) = [] :=
        List.filter_eq_nil_iff.mpr fun step _ => by simp only [List.not_mem_nil, decide_false,
          Bool.false_eq_true, not_false_iff]
      rw [hf]
      exact .nil
    | cons i calls ih =>
      obtain ⟨hi, hn⟩ := List.nodup_cons.mp nodup
      have hp := List.filter_append_perm (fun step : Fin n × Act => decide (step.1 = i))
        (history.filter (·.1 ∈ i :: calls))
      have hown : (history.filter (·.1 ∈ i :: calls)).filter (·.1 = i) =
          history.filter (·.1 = i) := by
        rw [List.filter_filter]
        refine List.filter_congr fun step _ => ?_
        by_cases hs : step.1 = i
        · simp only [hs, decide_true, List.mem_cons, true_or, Bool.and_self]
        · simp only [hs, decide_false, Bool.false_and]
      have hothers : (history.filter (·.1 ∈ i :: calls)).filter (fun step => !decide (step.1 = i)) =
          history.filter (·.1 ∈ calls) := by
        rw [List.filter_filter]
        refine List.filter_congr fun step _ => ?_
        by_cases hs : step.1 = i
        · simp only [hs, hi, decide_true, decide_false, Bool.not_true, Bool.false_and]
        · simp only [hs, decide_false, Bool.not_false, List.mem_cons, false_or, Bool.true_and]
      rw [hown, hothers] at hp
      have hm := (hp.symm.map (·.2)).flatMap_right part
      rw [List.map_append, List.flatMap_append] at hm
      exact hm.trans ((h i).append (ih hn))
  have hall := hsome (List.finRange n) (List.nodup_finRange n)
  rw [List.filter_eq_self.mpr fun step _ => decide_eq_true (List.mem_finRange step.1)] at hall
  exact hall

variable {handler : (i : Fin n) → Handler σ (ρ i)} {chain : (i : Fin n) → List (Interceptor (ρ i))}
  {path : Fin n → String} {methods : List String} {state : σ} {history : List (Fin n × Act)}
  {pool : Pool σ ρ}

/-- However calls take turns, the visits of each of them are tallied. -/
theorem Runs.tallied (runs : Runs handler (.start chain path methods state) history pool)
    (i : Fin n) :
    Tallied (visitsOf (chain i) (.ofPath (path i))) (actsOf i history) (pool.threads i) := by
  induction runs with
  | start => exact tallied_start (chain i) (path i)
  | @step history pool later j act before moves ih =>
    rw [actsOf_append]
    by_cases h : j = i
    · obtain rfl := h
      rw [if_pos rfl]
      exact ih.step moves.moves.balances
    · rw [if_neg h, moves.stay i (Ne.symm h)]
      exact ih

/-- However calls take turns, the counts say what was recorded. -/
theorem Runs.kept (runs : Runs handler (.start chain path methods state) history pool) :
    Kept (allActs history) pool.world.metrics := by
  induction runs with
  | start => exact kept_ofMethods methods
  | step before moves ih =>
    rw [allActs, List.map_append, List.map_singleton]
    exact ih.step moves.moves

/-- One of several calls may go on alone, and leaves the others where they are. -/
theorem Runs.alone {took : Nat → Reading} {start : Pool σ ρ}
    (before : Runs handler start history pool) {i : Fin n} {acts : List Act}
    {thread : Thread (ρ i)} {last : World σ}
    (alone : Alone took (handler i) (pool.threads i) pool.world acts thread last) :
    ∃ more later, Runs handler start (history ++ more) later ∧ later.threads i = thread ∧
      ∀ other, other ≠ i → later.threads other = pool.threads other := by
  generalize hf : pool.threads i = first at alone
  generalize hw : pool.world = world at alone
  induction alone generalizing pool history with
  | stays => exact ⟨[], pool, (List.append_nil history).symm ▸ before, hf, fun _ _ => rfl⟩
  | @goes first between thread world next last act acts moves shows on ih =>
    let stepped : Pool σ ρ :=
      ⟨fun j => if h : i = j then h ▸ between else pool.threads j, next⟩
    have hi : stepped.threads i = between := dif_pos rfl
    have hstay : ∀ other, other ≠ i → stepped.threads other = pool.threads other :=
      fun other ho => dif_neg (Ne.symm ho)
    have hmoves : pool.Moves handler i act stepped := by
      refine ⟨?_, hstay⟩
      rw [hf, hw, hi]
      exact moves
    obtain ⟨more, later, runs, ht, ho⟩ := ih (before.step hmoves) hi rfl
    rw [List.append_assoc] at runs
    exact ⟨_, later, runs, ht, fun other h => (ho other h).trans (hstay other h)⟩

/-- However far calls have come, all of them can come to their end. -/
theorem Runs.exists_finished {start : Pool σ ρ} (before : Runs handler start history pool) :
    ∃ more later, Runs handler start (history ++ more) later ∧
      ∀ i, (later.threads i).Finished := by
  have hsome : ∀ calls : List (Fin n), ∃ more later, Runs handler start (history ++ more) later ∧
      ∀ i ∈ calls, (later.threads i).Finished := by
    intro calls
    induction calls with
    | nil =>
      refine ⟨[], pool, ?_, fun i member => absurd member List.not_mem_nil⟩
      rw [List.append_nil]
      exact before
    | cons i calls ih =>
      obtain ⟨more, between, runs, ended⟩ := ih
      obtain ⟨acts, outcome, last, alone, _⟩ := Alone.exists_finished (fun _ => 0) (handler i)
        (between.threads i) between.world
      obtain ⟨own, later, hr, hi, ho⟩ := runs.alone alone
      rw [List.append_assoc] at hr
      refine ⟨_, later, hr, fun j member => ?_⟩
      by_cases hj : j = i
      · subst hj
        exact ⟨outcome, hi⟩
      · rw [ho j hj]
        exact ended j ((List.mem_cons.mp member).resolve_left hj)
  obtain ⟨more, later, runs, ended⟩ := hsome (List.finRange n)
  exact ⟨more, later, runs, fun i => ended i (List.mem_finRange i)⟩

/-- Whatever chains calls pass and however they take turns: a call visits a member that counts
exactly when it comes to it, under the name it has there. A visit that has begun lasts until the
call leaves the member, however the part inside has ended, and then it is recorded once; nothing
else is recorded. A call that is stopped outside all members that count records nothing. Once all
calls have come to their end every method has as many calls as visits were made under it, and the
summaries told of it are those for every hundredth of them, each once; and however far calls have
come, they can come to their end. -/
theorem visits_counted_exactly
    (runs : Runs handler (.start chain path methods state) history pool) :
    (∀ i, Tallied (visitsOf (chain i) (.ofPath (path i))) (actsOf i history) (pool.threads i)) ∧
      (∀ i, (visitsOf (chain i) (.ofPath (path i))).Nodup ∧
        ∀ visit, visit ∈ visitsOf (chain i) (.ofPath (path i)) ↔
          ∃ outer inner seen, chain i = outer ++ .metrics :: inner ∧
            behind? outer (.ofPath (path i)) = some seen ∧ visit = ⟨inner.length, seen.method⟩) ∧
      (∀ i, (pool.threads i).Finished →
        (actsOf i history).flatMap Act.entered = visitsOf (chain i) (.ofPath (path i)) ∧
          (actsOf i history).flatMap Act.counted =
            (visitsOf (chain i) (.ofPath (path i))).reverse) ∧
      (∀ i outer member inner seen, chain i = outer ++ member :: inner → .metrics ∉ outer →
        behind? outer (.ofPath (path i)) = some seen →
          (∀ renamed, member.enter seen ≠ .proceed renamed) →
            (actsOf i history).flatMap Act.counted = []) ∧
      (∀ method, pool.world.metrics.requestCount method =
        (((allActs history).flatMap Act.counted).map (·.method)).count method) ∧
      ((∀ i, (pool.threads i).Finished) → ∀ method,
        pool.world.metrics.requestCount method =
            (((allActs history).flatMap Act.entered).map (·.method)).count method ∧
          pool.world.metrics.requestCount method =
            (((List.finRange n).flatMap fun i =>
              visitsOf (chain i) (.ofPath (path i))).map (·.method)).count method ∧
          (Metrics.totalsOf method ((allActs history).flatMap Act.announced)).Perm
            (Metrics.dueTotals (pool.world.metrics.requestCount method))) ∧
      ∃ more later, Runs handler (.start chain path methods state) (history ++ more) later ∧
        ∀ i, (later.threads i).Finished := by
  have hk := runs.kept
  refine ⟨runs.tallied, fun i => ⟨visitsOf_nodup _ _, fun _ => mem_visitsOf_iff⟩, fun i ended => ?_,
    fun i outer member inner seen hc uncounted reached stops => ?_, hk.counted,
    fun ended method => ?_, runs.exists_finished⟩
  · obtain ⟨he, hr, _⟩ := (runs.tallied i).finished ended
    exact ⟨he, hr⟩
  · have ht := runs.tallied i
    rw [hc, visitsOf_stopped_outside uncounted reached stops inner] at ht
    exact ht.counted_eq_nil
  · have hend := fun i => (runs.tallied i).finished (ended i)
    have hbegun : ((allActs history).flatMap Act.entered).Perm
        ((List.finRange n).flatMap fun i => visitsOf (chain i) (.ofPath (path i))) :=
      flatMap_allActs_perm fun i => .of_eq (hend i).1
    have hrecorded : ((allActs history).flatMap Act.counted).Perm
        ((List.finRange n).flatMap fun i => visitsOf (chain i) (.ofPath (path i))) :=
      flatMap_allActs_perm fun i => (hend i).2.1 ▸ List.reverse_perm _
    have htold : ((allActs history).flatMap Act.announced).Perm
        ((allActs history).flatMap Act.noted) :=
      (flatMap_allActs_perm fun i => .of_eq (hend i).2.2).trans
        (flatMap_allActs_perm fun _ => .refl _).symm
    refine ⟨?_, ?_, ?_⟩
    · rw [hk.counted, ((hrecorded.trans hbegun.symm).map (·.method)).count_eq]
    · rw [hk.counted, (hrecorded.map (·.method)).count_eq]
    · rw [← hk.noted]
      exact htold.filterMap _

end Pool

/-- A member that gives every call another name. -/
def renamer : Custom Unit := ⟨"renamer", fun _ => .proceed (.ofPath "a/B"), .returned⟩

/-- Two calls, as far as they have come. -/
def pair (first second : Thread Unit) : Fin 2 → Thread Unit
  | 0 => first
  | 1 => second

/-- Two calls: one is renamed before it is counted and gets a response, the other one panics inside
the member that counts. Each of them is inside that member while the other one is. -/
theorem two_calls_counted :
    let chain : Fin 2 → List (Interceptor Unit) :=
      fun | 0 => [.custom renamer, .metrics] | 1 => [.metrics]
    let path : Fin 2 → String := fun | 0 => "a/A" | 1 => "a/B"
    let handler : Fin 2 → Handler Unit Unit :=
      fun
        | 0 => fun state => (.returned (.ok (.response ())), [], state)
        | 1 => fun state => (.panicked .unnamed, [], state)
    ∃ history pool, Runs handler (.start chain path [] ()) history pool ∧
      (∀ i, (pool.threads i).Finished) ∧ pool.world.metrics.requestCount "A" = 0 ∧
        pool.world.metrics.requestCount "B" = 2 := by
  intro chain path handler
  have hfirst : ∀ {thread later second : Thread Unit} {world next : World Unit} {act : Act},
      Moves (handler 0) thread world act later next →
        Pool.Moves handler ⟨pair thread second, world⟩ 0 act ⟨pair later second, next⟩ := by
    intro thread later second world next act moves
    exact ⟨moves, fun | 0, h => absurd rfl h | 1, _ => rfl⟩
  have hsecond : ∀ {thread later first : Thread Unit} {world next : World Unit} {act : Act},
      Moves (handler 1) thread world act later next →
        Pool.Moves handler ⟨pair first thread, world⟩ 1 act ⟨pair first later, next⟩ := by
    intro thread later first world next act moves
    exact ⟨moves, fun | 0, _ => rfl | 1, h => absurd rfl h⟩
  have hstart : Pool.start chain path [] () =
      ⟨pair (.start (chain 0) (path 0)) (.start (chain 1) (path 1)),
        ⟨Metrics.ofMethods [], ()⟩⟩ :=
    congrArg (Pool.mk · _) (funext fun | 0 => rfl | 1 => rfl)
  have hr : (Interceptor.custom renamer) ≠ .metrics := by
    simp only [ne_eq, reduceCtorEq, not_false_iff]
  have hnone : Runs handler (Pool.start chain path [] ()) []
      ⟨pair (.start (chain 0) (path 0)) (.start (chain 1) (path 1)),
        ⟨Metrics.ofMethods [], ()⟩⟩ := hstart ▸ .start
  have hin := (hnone.step (hfirst (.passes rfl))).step (hsecond (.passes rfl))
  have hout := ((hin.step (hfirst (.passes rfl))).step (hsecond .handles)).step (hfirst .handles)
  have hcounted := (hout.step (hsecond (.counts 7))).step (hfirst (.counts 9))
  have hlast := ((hcounted.step (hfirst .announces)).step (hsecond .announces)).step
    (hfirst (.leaves hr 11))
  have hquiet : ∃ history pool, Runs handler (Pool.start chain path [] ()) history pool ∧
      ∀ i, (pool.threads i).Finished :=
    ⟨_, _, hlast, fun | 0 => ⟨_, rfl⟩ | 1 => ⟨_, rfl⟩⟩
  obtain ⟨history, pool, runs, ended⟩ := hquiet
  have hcount := fun method => ((visits_counted_exactly runs).2.2.2.2.2.1 ended method).2.1
  exact ⟨history, pool, runs, ended, (hcount "A").trans (by decide +kernel),
    (hcount "B").trans (by decide +kernel)⟩

end MediaGateway.Chain
