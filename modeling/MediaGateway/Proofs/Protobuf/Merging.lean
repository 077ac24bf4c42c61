import MediaGateway.Proofs.Protobuf.Grammar
import MediaGateway.Proofs.Protobuf.Measure

/-!
# Fields one after another

Octets are merged field by field, and where a field ends depends on its own octets
only. So the loop over the fields of two stretches, one behind the other, comes to the
same as the loop over the first and then, from where that leads, over the second, with
whatever mistake there may be in it. What the loop passes is a run, in which each field
takes one state to the next.
-/

namespace MediaGateway.Protobuf

variable {α σ : Type}

/-- Octets that a reader takes off the front for a value, whatever follows them. -/
def Steady (reader : Bytes → Reading α) (content : Bytes) (value : α) : Prop :=
  ∀ rest, reader (content ++ rest) = .ok (value, rest)

/-- The grammar of a reader is what it takes off the front. -/
theorem Accepts.steady_iff {reader : Bytes → Reading α} {grammar : Bytes → α → Prop}
    (accepts : Accepts reader grammar) {content : Bytes} {value : α} :
    Steady reader content value ↔ grammar content value := by
  constructor
  · intro h
    obtain ⟨front, hg, he⟩ := (accepts _ _ _).mp (h [])
    rw [List.append_nil, List.append_nil] at he
    rwa [he]
  · intro hg rest
    exact (accepts _ _ _).mpr ⟨content, hg, rfl⟩

/-- A reader with a grammar accepts what it takes off the front. -/
theorem Accepts.steady {reader : Bytes → Reading α} {grammar : Bytes → α → Prop}
    (accepts : Accepts reader grammar) : Accepts reader (Steady reader) := by
  intro bytes value rest
  simp only [accepts bytes value rest, accepts.steady_iff]

/-- What is made of a reading. -/
theorem Accepts.map {β : Type} {reader : Bytes → Reading α} {grammar : Bytes → α → Prop}
    (accepts : Accepts reader grammar) (make : α → β) :
    Accepts (fun bytes => (reader bytes).map fun (value, rest) => (make value, rest))
      fun content made => ∃ value, grammar content value ∧ made = make value := by
  intro bytes made rest
  constructor
  · intro h
    obtain ⟨⟨value, after⟩, hr, he⟩ := Shape.of_map_ok h
    obtain ⟨rfl, rfl⟩ := Prod.mk.inj he
    obtain ⟨front, hg, hb⟩ := (accepts _ _ _).mp hr
    exact ⟨front, ⟨value, hg, rfl⟩, hb⟩
  · rintro ⟨front, ⟨value, hg, rfl⟩, rfl⟩
    have hr := (accepts _ _ rest).mpr ⟨front, hg, rfl⟩
    simp only [hr, Except.map]

/-- A reader that fails accepts nothing. -/
theorem accepts_of_fail {reader : Bytes → Reading α} {grammar : Bytes → α → Prop}
    {cause : Malformed} (fails : ∀ bytes, reader bytes = fail cause)
    (void : ∀ content value, ¬grammar content value) : Accepts reader grammar := by
  intro bytes value rest
  refine iff_of_false (fun h => ?_) ?_
  · rw [fails bytes] at h
    cases h
  · rintro ⟨front, hg, _⟩
    exact void front value hg

/-- The grammar of a reader may be said in other words. -/
theorem Accepts.congr {reader : Bytes → Reading α} {grammar other : Bytes → α → Prop}
    (accepts : Accepts reader grammar) (same : ∀ content value, grammar content value ↔
      other content value) : Accepts reader other := by
  intro bytes value rest
  simp only [accepts bytes value rest, same]

/-- Fields one after another, each of which takes one state to the next. -/
inductive Run (step : σ → Nat → WireType → Bytes → σ → Prop) : σ → Bytes → σ → Prop where
  /-- No field leaves the state as it is. -/
  | done (state : σ) : Run step state [] state
  /-- A field, and then those behind it. -/
  | field {state next last : σ} {number : Nat} {wire : WireType} {key content tail : Bytes}
    (isKey : IsKey key number wire) (taken : step state number wire content next)
    (later : Run step next tail last) : Run step state (key ++ content ++ tail) last

/-- A merge that takes exactly the octets of a step off the front. -/
def Exact (merge : Merge σ) (step : σ → Nat → WireType → Bytes → σ → Prop) : Prop :=
  ∀ state number wire, Accepts (merge state number wire) (step state number wire)

section Loop

variable {merge : Merge σ} {step : σ → Nat → WireType → Bytes → σ → Prop}

/-- A merge takes no octets back. -/
theorem Exact.length_le (exact : Exact merge step) {state next : σ} {number : Nat}
    {wire : WireType} {bytes rest : Bytes}
    (h : merge state number wire bytes = .ok (next, rest)) : rest.length ≤ bytes.length := by
  obtain ⟨content, _, rfl⟩ := (exact _ _ _ _ _ _).mp h
  rw [List.length_append]
  omega

/-- More fuel than octets is as good as any. -/
theorem Exact.mergeUntil_fuel (exact : Exact merge step) (limit : Nat) {fuel other : Nat}
    {state : σ} {bytes : Bytes} (enough : bytes.length < fuel) (plenty : bytes.length < other) :
    mergeUntil merge limit fuel state bytes = mergeUntil merge limit other state bytes := by
  induction fuel generalizing other state bytes with
  | zero => omega
  | succ fuel ih =>
    obtain ⟨other, rfl⟩ := Nat.exists_eq_add_one_of_ne_zero (by omega : other ≠ 0)
    rw [mergeUntil, mergeUntil]
    cases hr : readKey bytes with
    | error error => rfl
    | ok found =>
      obtain ⟨number, wire, rest⟩ := found
      obtain ⟨key, hk, rfl⟩ := readKey_ok_iff.mp hr
      have hl := hk.holds.length_pos
      rw [List.length_append] at enough plenty
      cases hm : merge state number wire rest with
      | error error => simp only [hm]
      | ok merged =>
        obtain ⟨next, after⟩ := merged
        have ha := exact.length_le hm
        have hi : mergeUntil merge limit fuel next after =
            mergeUntil merge limit other next after := ih (by omega) (by omega)
        simp only [hm, hi]

/-- The loop passes the fields of a run and goes on where they lead. -/
theorem Run.mergeUntil_append (exact : Exact merge step) {state last : σ} {front : Bytes}
    (run : Run step state front last) {limit fuel : Nat} (rest : Bytes)
    (stops : limit ≤ rest.length) (enough : (front ++ rest).length < fuel) :
    mergeUntil merge limit fuel state (front ++ rest) =
      mergeUntil merge limit (rest.length + 1) last rest := by
  induction run generalizing fuel with
  | done state => exact exact.mergeUntil_fuel limit enough (Nat.lt_succ_self _)
  | @field state next last number wire key content tail isKey taken later ih =>
    have hl := isKey.holds.length_pos
    simp only [List.length_append] at enough
    obtain ⟨fuel, rfl⟩ := Nat.exists_eq_add_one_of_ne_zero (by omega : fuel ≠ 0)
    have hr := readKey_ok_iff.mpr ⟨key, isKey, (rfl : key ++ (content ++ (tail ++ rest)) = _)⟩
    have hm := (exact state number wire (content ++ (tail ++ rest)) next (tail ++ rest)).mpr
      ⟨content, taken, rfl⟩
    have hf : ¬(key ++ (content ++ (tail ++ rest))).length ≤ limit := by
      simp only [List.length_append]
      omega
    have ht : (tail ++ rest).length < fuel := by
      rw [List.length_append]
      omega
    simp only [mergeUntil, List.append_assoc, if_neg hf, hr, hm]
    exact ih ht

/-- What the loop has passed is a run of fields. -/
theorem Exact.run_of_mergeUntil (exact : Exact merge step) {limit fuel : Nat} {state last : σ}
    {bytes rest : Bytes} (enough : bytes.length < fuel)
    (h : mergeUntil merge limit fuel state bytes = .ok (last, rest)) :
    rest.length ≤ limit ∧ ∃ front, Run step state front last ∧ bytes = front ++ rest := by
  induction fuel generalizing state bytes with
  | zero => omega
  | succ fuel ih =>
    rw [mergeUntil] at h
    split at h
    next hl =>
      cases h
      exact ⟨hl, [], .done _, rfl⟩
    · split at h
      · cases h
      next number wire after hr =>
        obtain ⟨key, hk, rfl⟩ := readKey_ok_iff.mp hr
        have hp := hk.holds.length_pos
        rw [List.length_append] at enough
        split at h
        · cases h
        next next left hm =>
          obtain ⟨content, hs, rfl⟩ := (exact _ _ _ _ _ _).mp hm
          rw [List.length_append] at enough
          obtain ⟨hl, tail, ht, rfl⟩ := ih (by omega) h
          refine ⟨hl, key ++ content ++ tail, .field hk hs ht, ?_⟩
          simp only [List.append_assoc]

/-- All fields are merged exactly when they are a run. -/
theorem Exact.mergeAll_ok_iff (exact : Exact merge step) {state last : σ} {bytes : Bytes} :
    mergeAll merge state bytes = .ok last ↔ Run step state bytes last := by
  constructor
  · intro h
    obtain ⟨⟨found, rest⟩, hm, he⟩ := Shape.of_map_ok h
    obtain ⟨hl, front, hr, hb⟩ := exact.run_of_mergeUntil (Nat.lt_succ_self _) hm
    obtain rfl := List.eq_nil_of_length_eq_zero (Nat.le_zero.mp hl)
    rw [List.append_nil] at hb
    rw [hb, ← show found = last from he]
    exact hr
  · intro run
    have hm := run.mergeUntil_append exact [] (Nat.zero_le _) (Nat.lt_succ_self _)
    rw [List.append_nil] at hm
    rw [mergeAll, hm]
    rfl

/-- Fields behind fields are merged onto what those come to, mistakes and all. -/
theorem Exact.mergeAll_append (exact : Exact merge step) {state middle : σ} {front : Bytes}
    (h : mergeAll merge state front = .ok middle) (rest : Bytes) :
    mergeAll merge state (front ++ rest) = mergeAll merge middle rest := by
  have run := exact.mergeAll_ok_iff.mp h
  have hm := run.mergeUntil_append exact rest (Nat.zero_le _) (Nat.lt_succ_self _)
  rw [mergeAll, hm, mergeAll]

/-- A stretch whose fields take one state to another. -/
def Within (merge : Merge σ) (state : σ) (content : Bytes) (last : σ) : Prop :=
  ∃ inner, IsStretch content inner ∧ mergeAll merge state inner = .ok last

/-- The fields behind a length are merged exactly when they are as long, whatever follows them. -/
theorem Exact.mergeDelimited_accepts (exact : Exact merge step) (state : σ) :
    Accepts (mergeDelimited merge state) (Within merge state) := by
  intro bytes last rest
  constructor
  · intro h
    rw [mergeDelimited] at h
    split at h
    · cases h
    next length after hr =>
      obtain ⟨front, hn, rfl⟩ := (readVarint_accepts _ _ _).mp hr
      split at h
      · cases h
      next hlong =>
        dsimp only at h
        split at h
        · cases h
        next merged left hm =>
          split at h
          next he =>
            cases h
            obtain ⟨_, inner, run, rfl⟩ := exact.run_of_mergeUntil (Nat.lt_succ_self _) hm
            rw [List.length_append] at he hlong
            obtain rfl : inner.length = length := by omega
            exact ⟨front ++ inner, ⟨inner, ⟨front, hn, rfl⟩, exact.mergeAll_ok_iff.mpr run⟩,
              (List.append_assoc _ _ _).symm⟩
          · cases h
  · rintro ⟨_, ⟨inner, ⟨front, hn, rfl⟩, hm⟩, rfl⟩
    have run := exact.mergeAll_ok_iff.mp hm
    have hr := (readVarint_accepts _ _ (inner ++ rest)).mpr ⟨front, hn, rfl⟩
    have hlong : ¬(inner ++ rest).length < inner.length := by
      rw [List.length_append]
      omega
    have hlimit : (inner ++ rest).length - inner.length = rest.length := by
      rw [List.length_append]
      omega
    have hu := run.mergeUntil_append exact rest (Nat.le_refl _)
      (Nat.lt_succ_self (inner ++ rest).length)
    have hs : mergeUntil merge rest.length (rest.length + 1) last rest = .ok (last, rest) := by
      rw [mergeUntil, if_pos (Nat.le_refl _)]
    simp only [mergeDelimited, List.append_assoc, hr, if_neg hlong, hlimit, hu, hs, if_true]

end Loop

end MediaGateway.Protobuf
