import Mathlib.Tactic.Ring
import MediaGateway.Proofs.Decimal.Rounding
import MediaGateway.Proofs.Json.Meaning

/-!
# Numbers that are not too large

A number is read in double precision from as many digits as a word of 64 bits holds
and from a power of ten. The digits come to no more than the number does, and
rounding adds little, so numbers of up to 10 ^ 308 are in range.
-/

namespace MediaGateway

/-- A power of ten. -/
def tens (places : Nat) : Nat := Nat.pow 10 places

/-- Powers of ten multiply. -/
theorem tens_add (left right : Nat) : tens (left + right) = tens left * tens right :=
  Nat.pow_add 10 left right

/-- One place more is ten times as much. -/
theorem tens_succ (places : Nat) : tens (places + 1) = tens places * 10 := rfl

/-- A power of ten is at least one. -/
theorem tens_pos (places : Nat) : 0 < tens places := Nat.pow_pos (by decide : 0 < 10)

/-- More places are no less. -/
theorem tens_mono {left right : Nat} (h : left ≤ right) : tens left ≤ tens right :=
  Nat.pow_le_pow_right (by decide : 0 < 10) h

namespace Binary64

/-- A quotient of many units is rounded up by an eighth at most. -/
theorem nearest_le {numerator denominator : Nat} (h : 16 ≤ numerator / denominator) :
    8 * (nearest numerator denominator).units ≤ 9 * (numerator / denominator) := by
  have hb := (nearest_bounds numerator denominator).1
  omega

/-- A whole number is rounded up by an eighth at most. -/
theorem ofNat_eighth {value : Nat} (h : 0 < value) :
    8 * (ofNat value).units ≤ 9 * (value * unit) := by
  have hu : 16 ≤ unit := by decide +kernel
  have hm : 1 * unit ≤ value * unit := Nat.mul_le_mul_right unit h
  have hn : 8 * (nearest (value * unit) 1).units ≤ 9 * (value * unit / 1) :=
    nearest_le (by rw [Nat.div_one]; omega)
  rwa [Nat.div_one] at hn

/-- A product of whole numbers that is at most 10 ^ 308 is finite. -/
theorem mul_isFinite {left right : Nat} (hl : 0 < left) (hr : 0 < right)
    (h : left * right ≤ tens 308) : ((ofNat left).mul (ofNat right)).isFinite = true := by
  have hu : 0 < unit := by decide +kernel
  have hb : 729 * (tens 308 * unit) < 512 * bound := by decide +kernel
  have hs : 16 < bound := by decide +kernel
  have hp : 64 * ((ofNat left).units * (ofNat right).units) ≤ 81 * (left * right * unit) * unit := by
    calc 64 * ((ofNat left).units * (ofNat right).units)
        = (8 * (ofNat left).units) * (8 * (ofNat right).units) := by ring
      _ ≤ (9 * (left * unit)) * (9 * (right * unit)) :=
          Nat.mul_le_mul (ofNat_eighth hl) (ofNat_eighth hr)
      _ = 81 * (left * right * unit) * unit := by ring
  have hq : 64 * ((ofNat left).units * (ofNat right).units / unit) ≤ 81 * (left * right * unit) := by
    refine Nat.le_trans (Nat.mul_div_le_mul_div_assoc _ _ _) (Nat.div_le_of_le_mul ?_)
    rw [Nat.mul_comm unit]
    exact hp
  have hm := Nat.mul_le_mul_right unit h
  rw [isFinite, decide_eq_true_eq, mul]
  have hn : 16 ≤ (ofNat left).units * (ofNat right).units / unit →
      8 * (nearest ((ofNat left).units * (ofNat right).units) unit).units ≤
        9 * ((ofNat left).units * (ofNat right).units / unit) := nearest_le
  have hk := (nearest_bounds ((ofNat left).units * (ofNat right).units) unit).1
  generalize (nearest ((ofNat left).units * (ofNat right).units) unit).units = rounded at *
  generalize (ofNat left).units * (ofNat right).units / unit = quotient at *
  generalize bound = limit at *
  generalize left * right * unit = exact at *
  generalize tens 308 * unit = largest at *
  omega

end Binary64

namespace Json

/-- What digits make behind those that make a value. -/
def digitsFrom (value : Nat) (digits : List Nat) : Nat :=
  digits.foldl (fun value digit => value * 10 + digit) value

/-- Digits behind a value move it up by their number. -/
theorem le_digitsFrom (value : Nat) (digits : List Nat) :
    value * tens digits.length ≤ digitsFrom value digits := by
  induction digits generalizing value with
  | nil => exact Nat.le_of_eq (Nat.mul_one value)
  | cons digit digits ih =>
    calc value * tens (digits.length + 1) = value * 10 * tens digits.length := by
          rw [tens_succ]; ring
      _ ≤ (value * 10 + digit) * tens digits.length :=
          Nat.mul_le_mul_right _ (Nat.le_add_right _ _)
      _ ≤ digitsFrom (value * 10 + digit) digits := ih _

/-- What is gathered of digits behind those already in a word. -/
structure Gathered (value count : Nat) (digits : List Nat) (found taken : Nat) : Prop where
  /-- No more digits are taken than there are. -/
  taken_le : taken ≤ count + digits.length
  /-- Those that were taken before stay. -/
  le_taken : count ≤ taken
  /-- The word holds what is found. -/
  fits : value < Nat.pow 2 64 → found < Nat.pow 2 64
  /-- What is found is no more than what all the digits make. -/
  found_le : found * tens (count + digits.length - taken) ≤ digitsFrom value digits
  /-- Without more digits nothing changes. -/
  same : taken = count → found = value
  /-- A digit is left out only where the word does not hold it. -/
  cut : taken < count + digits.length →
    Nat.pow 2 64 * tens (count + digits.length - taken - 1) ≤ digitsFrom value digits
  /-- All the digits make what is found when none is left out. -/
  whole : taken = count + digits.length → found = digitsFrom value digits

/-- What is gathered of digits. -/
theorem gathered (value count : Nat) (digits : List Nat) :
    Gathered value count digits (gather value count digits).1 (gather value count digits).2 := by
  induction digits generalizing value count with
  | nil =>
    exact ⟨Nat.le_refl _, Nat.le_refl _, id,
      by rw [gather, List.length_nil, Nat.add_zero, Nat.sub_self]; exact le_digitsFrom value [],
      fun _ => rfl, fun h => absurd h (Nat.lt_irrefl _), fun _ => rfl⟩
  | cons digit digits ih =>
    have hl : count + (digit :: digits).length = count + 1 + digits.length := by
      rw [List.length_cons]
      omega
    rw [gather]
    split
    next fits =>
      have h := ih (value * 10 + digit) (count + 1)
      exact ⟨hl ▸ h.taken_le, Nat.le_of_succ_le h.le_taken, fun _ => h.fits fits, hl ▸ h.found_le,
        fun he => absurd h.le_taken (by rw [he]; exact Nat.not_succ_le_self count), hl ▸ h.cut,
        hl ▸ h.whole⟩
    next large =>
      have hd : count + (digit :: digits).length - count = digits.length + 1 := by omega
      have hv := le_digitsFrom (value * 10 + digit) digits
      refine ⟨Nat.le_add_right _ _, Nat.le_refl _, id, ?_, fun _ => rfl, fun _ => ?_, fun he => ?_⟩
      · rw [hd]
        exact le_digitsFrom value (digit :: digits)
      · rw [hd, Nat.add_sub_cancel]
        exact Nat.le_trans (Nat.mul_le_mul_right _ (Nat.le_of_not_lt large)) hv
      · rw [List.length_cons] at he
        omega

/-- The digits that a number in double precision is read from come to no more than all its digits
do. Where digits in front of the point are left out, those behind it may be taken in their place,
but then they come to less. -/
theorem gather_le (whole fraction : List Nat) :
    (gather (gather 0 0 whole).1 0 fraction).1 * tens (whole.length - (gather 0 0 whole).2) *
        tens fraction.length ≤
      digitsValue (whole ++ fraction) * tens (gather (gather 0 0 whole).1 0 fraction).2 := by
  have hw := gathered 0 0 whole
  have hf := gathered (gather 0 0 whole).1 0 fraction
  have hd : digitsValue (whole ++ fraction) = digitsFrom (digitsFrom 0 whole) fraction := by
    rw [digitsValue, List.foldl_append]
    rfl
  have hm := le_digitsFrom (digitsFrom 0 whole) fraction
  rw [hd]
  generalize (gather 0 0 whole).1 = front at *
  generalize (gather 0 0 whole).2 = taken at *
  generalize (gather front 0 fraction).1 = digits at *
  generalize (gather front 0 fraction).2 = behind at *
  -- Digits are left out in front only when the word is full; then one that is taken behind the
  -- point stands for ten times less than what it replaces.
  rcases Nat.lt_or_eq_of_le hw.taken_le with left | all
  · obtain ⟨rest, hr⟩ := Nat.exists_eq_add_of_lt left
    have hs : whole.length - taken = rest + 1 := by omega
    have hc := hw.cut left
    have hl := hw.found_le
    rw [Nat.zero_add, hs] at hc hl
    rw [Nat.add_sub_cancel] at hc
    rw [hs]
    rcases Nat.eq_zero_or_pos behind with none | some
    · rw [hf.same none, none]
      calc front * tens (rest + 1) * tens fraction.length
          ≤ digitsFrom 0 whole * tens fraction.length := Nat.mul_le_mul_right _ hl
        _ ≤ digitsFrom (digitsFrom 0 whole) fraction := hm
        _ = digitsFrom (digitsFrom 0 whole) fraction * tens 0 := (Nat.mul_one _).symm
    · have hb : digits ≤ Nat.pow 2 64 :=
        Nat.le_of_lt (hf.fits (hw.fits (Nat.pow_pos (by decide : 0 < 2))))
      have ht : 10 ≤ tens behind := tens_mono some
      calc digits * tens (rest + 1) * tens fraction.length
          ≤ Nat.pow 2 64 * tens (rest + 1) * tens fraction.length :=
            Nat.mul_le_mul_right _ (Nat.mul_le_mul_right _ hb)
        _ = Nat.pow 2 64 * tens rest * tens fraction.length * 10 := by rw [tens_succ]; ring
        _ ≤ digitsFrom 0 whole * tens fraction.length * 10 :=
            Nat.mul_le_mul_right _ (Nat.mul_le_mul_right _ hc)
        _ ≤ digitsFrom (digitsFrom 0 whole) fraction * tens behind := Nat.mul_le_mul hm ht
  · have hs : tens fraction.length = tens (fraction.length - behind) * tens behind := by
      rw [← tens_add, Nat.sub_add_cancel (by simpa using hf.taken_le)]
    have hl := hf.found_le
    rw [hw.whole (by omega)] at hl
    rw [Nat.zero_add] at all hl
    have ho : tens 0 = 1 := rfl
    rw [all, Nat.sub_self, hs, ho]
    calc digits * 1 * (tens (fraction.length - behind) * tens behind)
        = digits * tens (fraction.length - behind) * tens behind := by ring
      _ ≤ digitsFrom (digitsFrom 0 whole) fraction * tens behind := Nat.mul_le_mul_right _ hl

/-- How far the exponent of a number moves the point to the right, and how far to the left. -/
def Numeral.shifts (numeral : Numeral) : Nat × Nat :=
  match numeral.exponent with
  | none => (0, 0)
  | some (false, digits) => (digitsValue digits, 0)
  | some (true, digits) => (0, digitsValue digits)

/-- The size of a number is at most a bound. -/
def Numeral.AtMost (numeral : Numeral) (bound : Nat) : Prop :=
  digitsValue (numeral.whole ++ numeral.fraction) * tens numeral.shifts.1 ≤
    bound * tens (numeral.fraction.length + numeral.shifts.2)

instance (numeral : Numeral) (bound : Nat) : Decidable (numeral.AtMost bound) := Nat.decLe _ _

/-- A power of ten that is not negative moves the point no further than the exponent does. -/
theorem power_le {numeral : Numeral} {places : Int} {power : Nat}
    (h : numeral.power places = .ofNat power) :
    (power : Int) + numeral.shifts.2 ≤ places + numeral.shifts.1 := by
  have hb : Int.pow 2 31 = 2147483648 := rfl
  rw [Numeral.power] at h
  rw [Numeral.shifts]
  simp only [Int.ofNat_eq_natCast] at h
  generalize numeral.exponent = exponent at h
  rcases exponent with _ | ⟨_ | _, digits⟩ <;> dsimp only at h ⊢ <;> omega

/-- Digits are scaled by a power of ten to a finite number when they come to 10 ^ 308 at most. -/
theorem scaled_ne_none {digits : Nat} {exponent : Int}
    (h : ∀ power, exponent = .ofNat power → digits * tens power ≤ tens 308) :
    scaled? digits exponent ≠ none := by
  cases exponent with
  | negSucc power => exact Option.some_ne_none _
  | ofNat power =>
    have hl := h power rfl
    rw [scaled?]
    dsimp only
    split
    · exact Option.some_ne_none _
    next hz =>
      have hd : 0 < digits := by
        rcases Nat.eq_zero_or_pos digits with rfl | hd
        · exact absurd (by decide +kernel : Binary64.ofNat 0 = Binary64.zero) hz
        · exact hd
      have hp : power ≤ largestPower := by
        refine Nat.le_of_not_lt fun more => ?_
        have ht : tens (308 + 1) ≤ tens power := tens_mono more
        have hm : tens power ≤ digits * tens power := Nat.le_mul_of_pos_left _ hd
        have hp := tens_pos 308
        rw [tens_succ] at ht
        omega
      rw [if_neg (Nat.not_lt.mpr hp), if_pos]
      · exact Option.some_ne_none _
      · exact Binary64.mul_isFinite hd (tens_pos power) hl

/-- Numbers of up to 10 ^ 308 are in range. -/
theorem inRange_of_atMost {numeral : Numeral} (h : numeral.AtMost (tens 308)) :
    numeral.InRange := by
  have hr : numeral.real? ≠ none := by
    rw [Numeral.real?]
    dsimp only
    rw [ne_eq, Option.map_eq_none_iff]
    refine scaled_ne_none fun power hp => ?_
    have hs := power_le hp
    have hg := gather_le numeral.whole numeral.fraction
    rw [Numeral.AtMost] at h
    generalize (gather 0 0 numeral.whole).2 = taken at *
    generalize (gather (gather 0 0 numeral.whole).1 0 numeral.fraction).1 = digits at *
    generalize (gather (gather 0 0 numeral.whole).1 0 numeral.fraction).2 = behind at *
    generalize numeral.shifts.1 = up at *
    generalize numeral.shifts.2 = down at *
    have ht := tens_mono (by omega : power + (down + behind) ≤ numeral.whole.length - taken + up)
    refine Nat.le_of_mul_le_mul_right ?_
      (tens_pos (down + behind + numeral.fraction.length))
    calc digits * tens power * tens (down + behind + numeral.fraction.length)
        = digits * tens (power + (down + behind)) * tens numeral.fraction.length := by
          simp only [tens_add]; ring
      _ ≤ digits * tens (numeral.whole.length - taken + up) * tens numeral.fraction.length :=
          Nat.mul_le_mul_right _ (Nat.mul_le_mul_left _ ht)
      _ = digits * tens (numeral.whole.length - taken) * tens numeral.fraction.length *
          tens up := by rw [tens_add]; ring
      _ ≤ digitsValue (numeral.whole ++ numeral.fraction) * tens behind * tens up :=
          Nat.mul_le_mul_right _ hg
      _ = digitsValue (numeral.whole ++ numeral.fraction) * tens up * tens behind := by ring
      _ ≤ tens 308 * tens (numeral.fraction.length + down) * tens behind :=
          Nat.mul_le_mul_right _ h
      _ = tens 308 * tens (down + behind + numeral.fraction.length) := by
          simp only [tens_add]; ring
  rw [Numeral.InRange, Numeral.number?]
  split
  · exact hr
  · split
    · split
      · exact hr
      · exact Option.some_ne_none _
    · split
      · exact Option.some_ne_none _
      · exact hr

end Json

end MediaGateway
