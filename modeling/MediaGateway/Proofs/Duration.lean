import MediaGateway.Duration

/-!
# Means that are told

The mean of samples is told in milliseconds. On the way it is rounded several times: after
each sample that is added, when the sum is divided, to the nearest nanosecond, and to the
nearest hundredth of a millisecond. What comes of all that is one number, and each of these
steps says which.
-/

namespace MediaGateway

/-! ## The nearest whole number -/

/-- A whole number is the nearest to a quotient; where two are, it is the even one. -/
structure IsNearest (numerator denominator whole : Nat) : Prop where
  /-- The quotient is at most a half above it. -/
  above : 2 * numerator ≤ (2 * whole + 1) * denominator
  /-- The quotient is at most a half below it. -/
  below : 2 * whole * denominator ≤ 2 * numerator + denominator
  /-- It is even where the quotient is half way to the next one. -/
  even : 2 * numerator = (2 * whole + 1) * denominator ∨
    2 * whole * denominator = 2 * numerator + denominator → whole % 2 = 0

/-- Rounding leads to the nearest whole number. -/
theorem roundEven_isNearest (numerator : Nat) {denominator : Nat} (h : 0 < denominator) :
    IsNearest numerator denominator (roundEven numerator denominator) := by
  have hn := Nat.div_add_mod numerator denominator
  have hr := Nat.mod_lt numerator h
  rw [roundEven]
  generalize numerator / denominator = whole at *
  generalize numerator % denominator = rest at *
  have hp : ∀ count, 2 * (whole + count) * denominator =
      2 * (denominator * whole) + 2 * (count * denominator) := by
    intro count
    rw [Nat.mul_assoc, Nat.add_mul, Nat.mul_comm whole, Nat.mul_add]
  have hs := hp 0
  have hu := hp 1
  rw [Nat.add_zero, Nat.zero_mul] at hs
  rw [Nat.one_mul] at hu
  split
  · exact ⟨by rw [Nat.add_mul]; omega, by omega, by rw [Nat.add_mul]; omega⟩
  · split
    · exact ⟨by rw [Nat.add_mul]; omega, by omega, by rw [Nat.add_mul]; omega⟩
    · split
      · exact ⟨by rw [Nat.add_mul]; omega, by omega, by rw [Nat.add_mul]; omega⟩
      · exact ⟨by rw [Nat.add_mul]; omega, by omega, by rw [Nat.add_mul]; omega⟩

/-- No whole number above the nearest one is another nearest one. -/
theorem IsNearest.not_lt {numerator denominator small large : Nat} (h : 0 < denominator)
    (hs : IsNearest numerator denominator small) (hl : IsNearest numerator denominator large) :
    ¬small < large := by
  intro hlt
  have hm := Nat.mul_le_mul_right denominator (by omega : 2 * small + 2 ≤ 2 * large)
  have ha := hs.above
  have hb := hl.below
  have hes := hs.even
  have hel := hl.even
  rw [Nat.add_mul] at hm ha hes
  -- Both are as near as can be, so the quotient is half way between neighbours.
  have he : 2 * large * denominator = (2 * small + 2) * denominator := by
    rw [Nat.add_mul]
    omega
  have hn := Nat.eq_of_mul_eq_mul_right h he
  have hsmall := hes (.inl (by omega))
  have hlarge := hel (.inr (by omega))
  omega

/-- One whole number is the nearest, and rounding leads to it. -/
theorem isNearest_iff {numerator denominator whole : Nat} (h : 0 < denominator) :
    IsNearest numerator denominator whole ↔ whole = roundEven numerator denominator := by
  constructor
  · intro hn
    have hr := roundEven_isNearest numerator h
    exact Nat.le_antisymm (Nat.le_of_not_lt (hr.not_lt h hn)) (Nat.le_of_not_lt (hn.not_lt h hr))
  · rintro rfl
    exact roundEven_isNearest numerator h

/-- A whole number is the nearest to a quotient; where two are, it is the larger one. -/
structure IsNearestUp (numerator denominator whole : Nat) : Prop where
  /-- The quotient is less than a half above it. -/
  above : 2 * numerator < (2 * whole + 1) * denominator
  /-- The quotient is at most a half below it. -/
  below : 2 * whole * denominator ≤ 2 * numerator + denominator

/-- One whole number is the nearest or the larger one of two, and rounding upwards leads to it. -/
theorem isNearestUp_iff {numerator denominator whole : Nat} (h : 0 < denominator) :
    IsNearestUp numerator denominator whole ↔ whole = roundUp numerator denominator := by
  have hd : 0 < 2 * denominator := Nat.mul_pos (by decide) h
  have hw : whole * (2 * denominator) = 2 * whole * denominator := by
    rw [Nat.mul_left_comm, Nat.mul_assoc]
  have hu : (2 * whole + 1) * denominator = 2 * whole * denominator + denominator := by
    rw [Nat.add_mul, Nat.one_mul]
  have hs : (whole + 1) * (2 * denominator) = 2 * whole * denominator + 2 * denominator := by
    rw [Nat.add_mul, hw, Nat.one_mul]
  rw [roundUp, eq_comm, Nat.div_eq_iff hd, hw]
  constructor
  · rintro ⟨above, below⟩
    omega
  · intro hb
    exact ⟨by omega, by omega⟩

namespace Duration

open Binary64 (unit ofNat)

/-! ## What is kept and told of spans -/

/-- The seconds of a span: the whole ones, and what the nanoseconds make that are left over. -/
def inSeconds (span : Duration) : Binary64 :=
  (ofNat (span.nanoseconds / 1000000000)).add
    ((ofNat (span.nanoseconds % 1000000000)).div (ofNat 1000000000))

/-- What samples come to when they are added one after another to what there is. -/
inductive SumsTo : Binary64 → List Binary64 → Binary64 → Prop where
  /-- There is none left. -/
  | done (total : Binary64) : SumsTo total [] total
  /-- The first of them is added before the others. -/
  | next {total first sum : Binary64} {rest : List Binary64}
    (later : SumsTo (total.add first) rest sum) : SumsTo total (first :: rest) sum

/-- The mean of samples: their sum from the first one on, divided by their number. -/
def IsMean (samples : List Binary64) (mean : Binary64) : Prop :=
  ∃ sum, SumsTo ⟨0⟩ samples sum ∧ mean = sum.div (ofNat samples.length)

/-- So many seconds are more than any span has. -/
def IsEndless (seconds : Binary64) : Prop := Nat.pow 2 64 * unit ≤ seconds.units

/-- So many seconds are told as so many milliseconds: they are taken for the nearest nanosecond, and
that is told to the nearest hundredth of a millisecond. -/
def ToldAs (seconds milliseconds : Binary64) : Prop :=
  ∃ nanoseconds hundredths, IsNearest (seconds.units * 1000000000) unit nanoseconds ∧
    IsNearestUp ((inSeconds ⟨nanoseconds⟩).mul (ofNat 100000)).units unit hundredths ∧
    milliseconds = (ofNat hundredths).div (ofNat 100)

/-- The seconds of a span are what is kept of it. -/
theorem seconds_eq (span : Duration) : span.seconds = span.inSeconds := by
  rw [seconds, inSeconds, perSecond]

/-- Samples come to one sum, which folding over them finds. -/
theorem sumsTo_iff {samples : List Binary64} {total sum : Binary64} :
    SumsTo total samples sum ↔ sum = samples.foldl Binary64.add total := by
  induction samples generalizing total with
  | nil =>
    constructor
    · intro h
      cases h
      rfl
    · rintro rfl
      exact .done _
  | cons first rest ih =>
    rw [List.foldl_cons, ← ih]
    constructor
    · intro h
      cases h with
      | next later => exact later
    · exact .next

/-- Samples have one mean. -/
theorem isMean_iff {samples : List Binary64} (h : samples ≠ []) {average : Binary64} :
    IsMean samples average ↔ average = mean samples := by
  have hl : max samples.length 1 = samples.length :=
    Nat.max_eq_left (List.length_pos_iff.mpr h)
  simp only [IsMean, sumsTo_iff, exists_eq_left, mean, hl]
  rfl

/-- A number of seconds is no span exactly when it is more than any. -/
theorem ofSeconds_eq_none_iff {seconds : Binary64} :
    ofSeconds? seconds = none ↔ IsEndless seconds := by
  rw [ofSeconds?, IsEndless]
  split
  next h => exact iff_of_true rfl h
  next h => exact iff_of_false (Option.some_ne_none _) h

/-- A number of seconds that is a span is told as the milliseconds of that. -/
theorem toldAs_iff {seconds milliseconds : Binary64} {span : Duration}
    (h : ofSeconds? seconds = some span) :
    ToldAs seconds milliseconds ↔ milliseconds = span.milliseconds := by
  have hu : 0 < unit := by decide +kernel
  have hs : span = ⟨roundEven (seconds.units * 1000000000) unit⟩ := by
    rw [ofSeconds?] at h
    split at h
    · cases h
    · exact (Option.some.inj h).symm
  have hm : span.milliseconds =
      (ofNat (roundUp (span.inSeconds.mul (ofNat 100000)).units unit)).div (ofNat 100) := by
    rw [Duration.milliseconds, seconds_eq]
  simp only [ToldAs, isNearest_iff hu, isNearestUp_iff hu]
  rw [hm, hs]
  generalize roundEven (seconds.units * 1000000000) unit = nanoseconds
  generalize hc : roundUp ((inSeconds ⟨nanoseconds⟩).mul (ofNat 100000)).units unit = hundredths
  constructor
  · rintro ⟨_, _, rfl, rfl, rfl⟩
    rw [hc]
  · rintro rfl
    exact ⟨nanoseconds, hundredths, rfl, hc.symm, rfl⟩

end Duration

end MediaGateway
