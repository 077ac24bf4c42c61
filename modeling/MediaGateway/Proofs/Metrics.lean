import MediaGateway.Metrics
import MediaGateway.Proofs.Duration

/-!
# What a history of calls leaves behind

After any calls the count of a method is the number of its calls, and its window
holds the seconds that the last of them took. What is said about a call depends
on the calls of its method before it, and on nothing else.
-/

namespace MediaGateway.Metrics

/-- A call of a method. -/
structure Call where
  /-- The method. -/
  method : String
  /-- How long it took. -/
  took : Duration

/-- The counts after several calls, and what is said about each of them, in order. -/
def recordAll (metrics : Metrics) : List Call → Metrics × List Notice
  | [] => (metrics, [])
  | call :: rest =>
    let recorded := metrics.record call.method call.took
    let others := recordAll recorded.1 rest
    (others.1, recorded.2 :: others.2)

/-- How long the calls of a method took, in order. -/
def spansOf (method : String) (calls : List Call) : List Duration :=
  (calls.filter fun call => call.method = method).map (·.took)

/-- A call adds its span to those of its method. -/
theorem spansOf_cons (method : String) (call : Call) (calls : List Call) :
    spansOf method (call :: calls) =
      if call.method = method then call.took :: spansOf method calls
      else spansOf method calls := by
  by_cases h : call.method = method
  · simp only [spansOf, List.filter_cons, h, decide_true, if_true, List.map_cons]
  · simp only [spansOf, List.filter_cons, h, decide_false, Bool.false_eq_true, if_false]

/-- The seconds that the last of several spans took, a thousand at most, the oldest first. -/
def lastSeconds (spans : List Duration) : List Binary64 :=
  (spans.map Duration.inSeconds).drop (spans.length - 1000)

/-- What is kept after spans, and nothing before them. -/
def Stats.ofSpans (spans : List Duration) : Stats := ⟨spans.length, lastSeconds spans⟩

/-! ## What is kept for a method -/

/-- The first entry is found by its method. -/
theorem lookup_first (method other : String) (kept : Stats) (entries : List (String × Stats)) :
    ((method, kept) :: entries).lookup other =
      if other = method then some kept else entries.lookup other := by
  rw [List.lookup_cons]
  by_cases h : other = method
  · rw [if_pos h, beq_iff_eq.mpr h]
  · rw [if_neg h, beq_eq_false_iff_ne.mpr h]

/-- Putting something for a method puts it for no other one. -/
theorem lookup_putStats (method other : String) (kept : Stats) (entries : List (String × Stats)) :
    (putStats method kept entries).lookup other =
      if other = method then some kept else entries.lookup other := by
  induction entries with
  | nil => rw [putStats, lookup_first]
  | cons first entries ih =>
    obtain ⟨name, old⟩ := first
    rw [putStats, lookup_first]
    by_cases hn : name = method
    · rw [if_pos hn, hn, lookup_first]
      by_cases h : other = method
      · rw [if_pos h, if_pos h]
      · rw [if_neg h, if_neg h, if_neg h]
    · rw [if_neg hn, lookup_first, ih]
      by_cases h : other = name
      · rw [if_pos h, if_pos h, if_neg fun he => hn (h.symm.trans he)]
      · rw [if_neg h, if_neg h]

/-- Recording a call changes what is kept for its method, and for no other one. -/
theorem stats_record (metrics : Metrics) (method other : String) (took : Duration) :
    (metrics.record method took).1.stats other =
      if other = method then (metrics.stats method).push took else metrics.stats other := by
  rw [record, stats, lookup_putStats]
  by_cases h : other = method
  · rw [if_pos h, if_pos h, Option.getD_some]
  · rw [if_neg h, if_neg h, stats]

/-- Nothing is kept for methods that are known and not called yet. -/
theorem stats_ofMethods (methods : List String) (method : String) :
    (ofMethods methods).stats method = Stats.blank := by
  have hf : ∀ entries : List (String × Stats),
      (entries.lookup method).getD Stats.blank = Stats.blank →
        ((methods.foldl (fun entries method => putStats method Stats.blank entries)
          entries).lookup method).getD Stats.blank = Stats.blank := by
    induction methods with
    | nil => exact fun _ h => h
    | cons first methods ih =>
      intro entries h
      rw [List.foldl_cons]
      apply ih
      rw [lookup_putStats]
      split
      · rfl
      · exact h
  exact hf [] rfl

/-- A sample more leaves the last of all samples. -/
theorem pushSample_drop (samples : List Binary64) (sample : Binary64) :
    pushSample (samples.drop (samples.length - 1000)) sample =
      (samples ++ [sample]).drop ((samples ++ [sample]).length - 1000) := by
  have ha : samples.drop (samples.length - 1000) ++ [sample] =
      (samples ++ [sample]).drop (samples.length - 1000) :=
    (List.drop_append_of_le_length (Nat.sub_le _ _)).symm
  have hs : samples.length - 1000 +
      (samples.length - (samples.length - 1000) + 1 - 1000) =
      samples.length + 1 - 1000 := by omega
  have hl : ((samples ++ [sample]).drop (samples.length - 1000)).length =
      samples.length - (samples.length - 1000) + 1 := by
    rw [← ha, List.length_append, List.length_drop, List.length_singleton]
  rw [pushSample, windowSize, ha, List.drop_drop, hl, List.length_append, List.length_singleton, hs]

/-- What is kept after spans grows with each of them. -/
theorem Stats.push_ofSpans (spans : List Duration) (took : Duration) :
    (Stats.ofSpans spans).push took = Stats.ofSpans (spans ++ [took]) := by
  have hp := pushSample_drop (spans.map Duration.inSeconds) took.inSeconds
  simp only [List.length_append, List.length_map, List.length_singleton] at hp
  simp only [Stats.ofSpans, Stats.push, Duration.seconds_eq, lastSeconds, hp, List.map_append,
    List.map_cons, List.map_nil, List.length_append, List.length_singleton]

/-- What is kept for a method after calls comes from its own calls. -/
theorem stats_recordAll (metrics : Metrics) (calls : List Call) (method : String) :
    (recordAll metrics calls).1.stats method =
      (spansOf method calls).foldl Stats.push (metrics.stats method) := by
  induction calls generalizing metrics with
  | nil => rfl
  | cons call calls ih =>
    rw [recordAll]
    dsimp only
    rw [ih, stats_record, spansOf_cons]
    by_cases h : call.method = method
    · rw [if_pos h.symm, if_pos h, List.foldl_cons, h]
    · rw [if_neg fun he => h he.symm, if_neg h]

/-- What is kept after spans follows from what is kept at the start. -/
theorem foldl_push_blank (spans : List Duration) :
    spans.foldl Stats.push Stats.blank = Stats.ofSpans spans := by
  have hf : ∀ front rest : List Duration,
      rest.foldl Stats.push (Stats.ofSpans front) = Stats.ofSpans (front ++ rest) := by
    intro front rest
    induction rest generalizing front with
    | nil => rw [List.foldl_nil, List.append_nil]
    | cons took rest ih =>
      rw [List.foldl_cons, Stats.push_ofSpans, ih, List.append_assoc, List.singleton_append]
  exact hf [] spans

/-- What is kept for a method after any calls is its history, whatever was known before. -/
theorem stats_history (methods : List String) (calls : List Call) (method : String) :
    (recordAll (ofMethods methods) calls).1.stats method =
      Stats.ofSpans (spansOf method calls) := by
  rw [stats_recordAll, stats_ofMethods, foldl_push_blank]

/-! ## What is said about a call -/

/-- Calls behind one another are recorded one after another. -/
theorem recordAll_append (metrics : Metrics) (before after : List Call) :
    recordAll metrics (before ++ after) =
      ((recordAll (recordAll metrics before).1 after).1,
        (recordAll metrics before).2 ++ (recordAll (recordAll metrics before).1 after).2) := by
  induction before generalizing metrics with
  | nil => rfl
  | cons call before ih =>
    rw [List.cons_append, recordAll, ih]
    rfl

/-- There is one notice for each call. -/
theorem recordAll_length (metrics : Metrics) (calls : List Call) :
    (recordAll metrics calls).2.length = calls.length := by
  induction calls generalizing metrics with
  | nil => rfl
  | cons call calls ih =>
    rw [recordAll]
    dsimp only
    rw [List.length_cons, List.length_cons, ih]

/-- What is due to be said about a call, given the spans of its method before it. At every
hundredth call of the method that is a summary of the last spans up to this call, unless their mean
is more than any span; nothing is due at any other call. -/
structure Tells (earlier : List Duration) (call : Call) (notice : Notice) : Prop where
  /-- A summary, with the number of the call and the mean. -/
  summary : ∀ content, notice = .summary content ↔
    (earlier.length + 1) % 100 = 0 ∧ content.method = call.method ∧
      content.totalRequests = earlier.length + 1 ∧
      ∃ mean, Duration.IsMean (lastSeconds (earlier ++ [call.took])) mean ∧
        ¬Duration.IsEndless mean ∧ Duration.ToldAs mean content.averageMs
  /-- A mean that is more than any span. -/
  tooLarge : notice = .meanTooLarge ↔ (earlier.length + 1) % 100 = 0 ∧
    ∃ mean, Duration.IsMean (lastSeconds (earlier ++ [call.took])) mean ∧
      Duration.IsEndless mean
  /-- A summary is told by one event. -/
  told : ∀ content, notice = .summary content → notice.events =
    [⟨.info, .metrics, "Method metrics", [("method", .text content.method),
      ("total_requests", .integer content.totalRequests),
      ("avg_duration_ms", .real content.averageMs)]⟩]
  /-- Nothing else is told by events. -/
  untold : (∀ content, notice ≠ .summary content) → notice.events = []

/-- Nothing but a summary makes events. -/
theorem events_untold {notice : Notice} (h : ∀ content, notice ≠ .summary content) :
    notice.events = [] := by
  cases notice with
  | summary content => exact absurd rfl (h content)
  | silent => rfl
  | meanTooLarge => rfl

/-- The last of several spans are some. -/
theorem lastSeconds_ne_nil (earlier : List Duration) (took : Duration) :
    lastSeconds (earlier ++ [took]) ≠ [] := by
  intro h
  have hl := congrArg List.length h
  rw [lastSeconds, List.length_drop, List.length_map, List.length_append, List.length_singleton,
    List.length_nil] at hl
  omega

/-- The last spans up to a call have one mean, so what holds of some mean of them holds of that. -/
theorem exists_isMean_iff (earlier : List Duration) (took : Duration) (holds : Binary64 → Prop) :
    (∃ mean, Duration.IsMean (lastSeconds (earlier ++ [took])) mean ∧ holds mean) ↔
      holds (Duration.mean (lastSeconds (earlier ++ [took]))) := by
  simp only [Duration.isMean_iff (lastSeconds_ne_nil earlier took), exists_eq_left]

/-- What is said when a call is kept: nothing, a summary, or that the mean is no span. -/
theorem Stats.notice_cases (kept : Stats) (method : String) :
    (kept.count % 100 ≠ 0 ∧ kept.notice method = .silent) ∨
      (∃ span, kept.count % 100 = 0 ∧ Duration.ofSeconds? (Duration.mean kept.window) = some span ∧
        kept.notice method = .summary ⟨method, kept.count, span.milliseconds⟩) ∨
      (kept.count % 100 = 0 ∧ Duration.ofSeconds? (Duration.mean kept.window) = none ∧
        kept.notice method = .meanTooLarge) := by
  by_cases due : kept.count % 100 = 0
  · cases hs : Duration.ofSeconds? (Duration.mean kept.window) with
    | some span =>
      refine .inr (.inl ⟨span, due, rfl, ?_⟩)
      simp only [notice, summaryEvery, due, if_true, hs]
    | none =>
      refine .inr (.inr ⟨due, rfl, ?_⟩)
      simp only [notice, summaryEvery, due, if_true, hs]
  · refine .inl ⟨due, ?_⟩
    simp only [notice, summaryEvery, due, if_false]

/-- What is said after spans is what is due. -/
theorem notice_tells (earlier : List Duration) (call : Call) :
    Tells earlier call ((Stats.ofSpans (earlier ++ [call.took])).notice call.method) := by
  have hl : (Stats.ofSpans (earlier ++ [call.took])).count = earlier.length + 1 := by
    rw [Stats.ofSpans, List.length_append, List.length_singleton]
  have hw : (Stats.ofSpans (earlier ++ [call.took])).window =
      lastSeconds (earlier ++ [call.took]) := by
    rw [Stats.ofSpans]
  have hmean := exists_isMean_iff earlier call.took
  have hc := (Stats.ofSpans (earlier ++ [call.took])).notice_cases call.method
  rw [hl, hw] at hc
  obtain ⟨undue, hn⟩ | ⟨span, due, hs, hn⟩ | ⟨due, hs, hn⟩ := hc
  · rw [hn]
    exact ⟨fun content => iff_of_false (fun h => by cases h) fun h => undue h.1,
      iff_of_false (fun h => by cases h) fun h => undue h.1, fun content h => (by cases h),
      events_untold⟩
  · have hf : ¬Duration.IsEndless (Duration.mean (lastSeconds (earlier ++ [call.took]))) := by
      intro he
      rw [Duration.ofSeconds_eq_none_iff.mpr he] at hs
      cases hs
    rw [hn]
    refine ⟨fun content => ?_, ?_, fun content h => ?_, events_untold⟩
    · rw [hmean fun mean => ¬Duration.IsEndless mean ∧ Duration.ToldAs mean content.averageMs,
        Duration.toldAs_iff hs]
      constructor
      · intro h
        rw [← Notice.summary.inj h]
        exact ⟨due, rfl, rfl, hf, rfl⟩
      · rintro ⟨-, hm, ht, -, ha⟩
        rw [← hm, ← ht, ← ha]
    · rw [hmean]
      exact iff_of_false (fun h => by cases h) fun h => hf h.2
    · rw [← Notice.summary.inj h]
      rfl
  · have he := Duration.ofSeconds_eq_none_iff.mp hs
    rw [hn]
    refine ⟨fun content => ?_, ?_, fun content h => (by cases h), events_untold⟩
    · rw [hmean fun mean => ¬Duration.IsEndless mean ∧ Duration.ToldAs mean content.averageMs]
      exact iff_of_false (fun h => by cases h) fun h => h.2.2.2.1 he
    · rw [hmean]
      exact iff_of_true rfl ⟨due, he⟩

/-- What is said about a call in a history is what is due after the calls before it. -/
theorem recordAll_tells (methods : List String) (before : List Call) (call : Call)
    (after : List Call) :
    ∃ notice, (recordAll (ofMethods methods) (before ++ call :: after)).2[before.length]? =
        some notice ∧ Tells (spansOf call.method before) call notice := by
  refine ⟨_, ?_, notice_tells (spansOf call.method before) call⟩
  have hl := recordAll_length (ofMethods methods) before
  rw [recordAll_append, ← hl, List.getElem?_append_right (Nat.le_refl _), Nat.sub_self, recordAll,
    List.getElem?_cons_zero, record, stats_history, Stats.push_ofSpans]

/-! ## Methods apart from one another -/

/-- The notices of the calls of one method, in order. -/
def noticesOf (method : String) (calls : List Call) (notices : List Notice) : List Notice :=
  ((calls.zip notices).filter fun told => told.1.method = method).map (·.2)

/-- What is said about a method is what is said when no other one is called, as long as the same
is kept for it at the start. -/
theorem noticesOf_recordAll (method : String) {metrics other : Metrics}
    (h : metrics.stats method = other.stats method) (calls : List Call) :
    noticesOf method calls (recordAll metrics calls).2 =
      (recordAll other (calls.filter fun call => call.method = method)).2 := by
  induction calls generalizing metrics other with
  | nil => rfl
  | cons call calls ih =>
    by_cases hc : call.method = method
    · have hs : (metrics.record call.method call.took).1.stats method =
          (other.record call.method call.took).1.stats method := by
        rw [stats_record, stats_record, hc, h]
      have hn : (metrics.record call.method call.took).2 =
          (other.record call.method call.took).2 := by
        rw [record, record, hc, h]
      have hf : (call :: calls).filter (fun call => call.method = method) =
          call :: calls.filter fun call => call.method = method := by
        simp only [List.filter_cons, hc, decide_true, if_true]
      rw [hf, recordAll, recordAll, ← ih hs, ← hn]
      simp only [noticesOf, List.zip_cons_cons, List.filter_cons, hc, decide_true, if_true,
        List.map_cons]
    · have hs : (metrics.record call.method call.took).1.stats method = other.stats method := by
        rw [stats_record, if_neg fun he => hc he.symm, h]
      have hf : (call :: calls).filter (fun call => call.method = method) =
          calls.filter fun call => call.method = method := by
        simp only [List.filter_cons, hc, decide_false, Bool.false_eq_true, if_false]
      rw [hf, recordAll, ← ih hs]
      simp only [noticesOf, List.zip_cons_cons, List.filter_cons, hc, decide_false,
        Bool.false_eq_true, if_false]

/-- Counts that keep the same for every method say the same and go on keeping the same. -/
theorem recordAll_congr {metrics other : Metrics}
    (h : ∀ method, metrics.stats method = other.stats method) (calls : List Call) :
    (recordAll metrics calls).2 = (recordAll other calls).2 ∧
      ∀ method, (recordAll metrics calls).1.stats method =
        (recordAll other calls).1.stats method := by
  induction calls generalizing metrics other with
  | nil => exact ⟨rfl, h⟩
  | cons call calls ih =>
    have hs : ∀ method, (metrics.record call.method call.took).1.stats method =
        (other.record call.method call.took).1.stats method := by
      intro method
      rw [stats_record, stats_record, h, h]
    have hn : (metrics.record call.method call.took).2 =
        (other.record call.method call.took).2 := by
      rw [record, record, h]
    obtain ⟨ho, hk⟩ := ih hs
    refine ⟨?_, hk⟩
    simp only [recordAll, hn, ho]

/-- After any calls, whatever methods were known before, every method has the number of its calls
and the seconds of the last of them, a thousand at most. Every call was told what is due after the
earlier calls of its method, whether or not a mean was too large on the way. What is kept and said
for a method is the same without the calls of all others, and the same when no method was known. -/
theorem history_kept (methods : List String) (calls : List Call) :
    (∀ method,
      (recordAll (ofMethods methods) calls).1.requestCount method =
          (spansOf method calls).length ∧
        ((recordAll (ofMethods methods) calls).1.stats method).window =
          lastSeconds (spansOf method calls) ∧
        (recordAll (ofMethods methods) calls).1.sampleWindow method =
          min (spansOf method calls).length 1000) ∧
      (recordAll (ofMethods methods) calls).2.length = calls.length ∧
      (∀ before call after, calls = before ++ call :: after →
        ∃ notice, (recordAll (ofMethods methods) calls).2[before.length]? = some notice ∧
          Tells (spansOf call.method before) call notice) ∧
      (∀ method,
        (recordAll (ofMethods methods) calls).1.stats method =
            (recordAll (ofMethods methods)
              (calls.filter fun call => call.method = method)).1.stats method ∧
          noticesOf method calls (recordAll (ofMethods methods) calls).2 =
            (recordAll (ofMethods methods) (calls.filter fun call => call.method = method)).2) ∧
      (recordAll (ofMethods methods) calls).2 = (recordAll empty calls).2 ∧
      ∀ method, (recordAll (ofMethods methods) calls).1.stats method =
        (recordAll empty calls).1.stats method := by
  have he : ∀ method, (ofMethods methods).stats method = empty.stats method :=
    stats_ofMethods methods
  refine ⟨?_, recordAll_length _ calls, ?_, ?_, recordAll_congr he calls⟩
  · intro method
    have hs := stats_history methods calls method
    refine ⟨?_, ?_, ?_⟩
    · rw [requestCount, hs, Stats.ofSpans]
    · rw [hs, Stats.ofSpans]
    · rw [sampleWindow, hs, Stats.ofSpans, lastSeconds, List.length_drop, List.length_map]
      omega
  · rintro before call after rfl
    exact recordAll_tells methods before call after
  · intro method
    refine ⟨?_, noticesOf_recordAll method rfl calls⟩
    have hf : spansOf method (calls.filter fun call => call.method = method) =
        spansOf method calls := by
      simp only [spansOf, List.filter_filter, Bool.and_self]
    rw [stats_history, stats_history, hf]

/-- Calls of one method that take a millisecond and one more each time, and a short call of
another method after each of them. -/
def growingCalls : List Call :=
  (List.range 100).flatMap fun before => [⟨"a/B", ⟨(before + 1) * 1000000⟩⟩, ⟨"a/C", ⟨5⟩⟩]

/-- The hundredth of the growing calls is told with a mean of fifty and a half milliseconds, which
is the mean of the numbers up to a hundred. The call before it is told nothing. -/
theorem growing_calls_told :
    (recordAll (ofMethods ["a/C"]) growingCalls).1.requestCount "a/B" = 100 ∧
      (recordAll (ofMethods ["a/C"]) growingCalls).1.sampleWindow "a/B" = 100 ∧
      ((recordAll (ofMethods ["a/C"]) growingCalls).2[198]?).map Notice.events =
        some [⟨.info, .metrics, "Method metrics", [("method", .text "a/B"),
          ("total_requests", .integer 100),
          ("avg_duration_ms", .real ⟨101 * Nat.pow 2 1073⟩)]⟩] ∧
      ((recordAll (ofMethods ["a/C"]) growingCalls).2[196]?).map Notice.events = some [] := by
  obtain ⟨hc, -, hw⟩ := (history_kept ["a/C"] growingCalls).1 "a/B"
  have hs : (spansOf "a/B" growingCalls).length = 100 := by decide +kernel
  exact ⟨hc.trans hs, hw.trans (by rw [hs]; rfl), by decide +kernel, by decide +kernel⟩

end MediaGateway.Metrics
