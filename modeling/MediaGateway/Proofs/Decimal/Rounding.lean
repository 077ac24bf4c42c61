import MediaGateway.Duration

/-!
# How far rounding leads

A rounded number differs from the exact one by no more than the spacing of the
numbers around it, and numbers of up to 53 bits not at all. Sums of a thousand
spans therefore stay far from the largest span there is, and so does their mean.
-/

namespace MediaGateway

namespace Binary64

/-- Rounding leads to one of the two whole numbers around a quotient. -/
theorem roundEven_bounds (numerator denominator : Nat) :
    numerator / denominator ≤ roundEven numerator denominator ∧
      roundEven numerator denominator ≤ numerator / denominator + 1 := by
  rw [roundEven]
  split
  · omega
  · split
    · omega
    · split <;> omega

/-- The spacing around a number is small beside the number: one part in 2 ^ 52 of it. -/
theorem spacing_le (whole : Nat) :
    Nat.pow 2 (whole.log2 - 52) ≤ whole / 4503599627370496 + 1 := by
  by_cases hs : whole.log2 ≤ 52
  · rw [Nat.sub_eq_zero_of_le hs]
    exact Nat.le_add_left 1 _
  · have hz : whole ≠ 0 := by
      rintro rfl
      exact hs (by decide)
    have hp : Nat.pow 2 whole.log2 = Nat.pow 2 (whole.log2 - 52) * Nat.pow 2 52 := by
      have ha := Nat.pow_add 2 (whole.log2 - 52) 52
      rwa [Nat.sub_add_cancel (by omega)] at ha
    have hl : Nat.pow 2 whole.log2 ≤ whole := Nat.log2_self_le hz
    rw [hp] at hl
    have hd := (Nat.le_div_iff_mul_le (by decide : 0 < Nat.pow 2 52)).mpr hl
    have hb : Nat.pow 2 52 = 4503599627370496 := rfl
    rw [hb] at hd
    omega

/-- A quotient is rounded by no more than the spacing around it. -/
theorem nearest_bounds (numerator denominator : Nat) :
    (nearest numerator denominator).units ≤
        numerator / denominator + (numerator / denominator / 4503599627370496 + 1) ∧
      numerator / denominator ≤
        (nearest numerator denominator).units +
          (numerator / denominator / 4503599627370496 + 1) := by
  have hs := spacing_le (numerator / denominator)
  generalize hw : numerator / denominator = whole at *
  generalize hg : Nat.pow 2 (whole.log2 - 52) = spacing at *
  have hp : 0 < spacing := by
    rw [← hg]
    exact Nat.pow_pos (by decide : 0 < 2)
  have hr := roundEven_bounds numerator (denominator * spacing)
  rw [← Nat.div_div_eq_div_mul, hw] at hr
  have hu : (nearest numerator denominator).units =
      roundEven numerator (denominator * spacing) * spacing := by
    simp only [nearest, hw, hg]
  have hl := Nat.mul_le_mul_right spacing hr.1
  have hh := Nat.mul_le_mul_right spacing hr.2
  have hd := Nat.div_add_mod whole spacing
  have hm := Nat.mod_lt whole hp
  rw [Nat.mul_comm] at hd
  rw [Nat.add_mul, Nat.one_mul] at hh
  omega

/-- One has many units. -/
theorem le_unit : 4 ≤ unit := by decide +kernel

/-- A whole number is rounded to less than twice what it is. -/
theorem ofNat_le (value : Nat) : (ofNat value).units ≤ 2 * (value * unit) + 1 := by
  have hb := (nearest_bounds (value * unit) 1).1
  rw [Nat.div_one] at hb
  rw [ofNat]
  omega

/-- A whole number that is not zero is rounded to half a one at least. -/
theorem unit_le_ofNat {value : Nat} (hv : 0 < value) : unit ≤ 2 * (ofNat value).units := by
  have hb := (nearest_bounds (value * unit) 1).2
  rw [Nat.div_one] at hb
  have hu := le_unit
  have hm : 1 * unit ≤ value * unit := Nat.mul_le_mul_right unit hv
  rw [ofNat]
  omega

/-- A sum is rounded by little. -/
theorem add_le (left right : Binary64) :
    (left.add right).units ≤
      left.units + right.units + ((left.units + right.units) / 4503599627370496 + 1) := by
  have hb := (nearest_bounds (left.units + right.units) 1).1
  rwa [Nat.div_one] at hb

/-- Dividing by half a one at least does not make a number more than about four times as large. -/
theorem div_le (left : Binary64) {right : Binary64} (h : unit ≤ 2 * right.units) :
    (left.div right).units ≤ 4 * left.units + 1 := by
  have hb := (nearest_bounds (left.units * unit) right.units).1
  have hq : left.units * unit / right.units ≤ 2 * left.units := by
    refine Nat.div_le_of_le_mul ?_
    have hm := Nat.mul_le_mul_left left.units h
    have hc : left.units * (2 * right.units) = right.units * (2 * left.units) := by
      rw [Nat.mul_left_comm, Nat.mul_comm left.units, Nat.mul_left_comm]
    omega
  rw [div]
  omega

/-- A quotient that comes to a whole multiple of its spacing is not rounded. -/
theorem nearest_of_dvd {whole denominator : Nat} (hd : 0 < denominator)
    (h : Nat.pow 2 (whole.log2 - 52) ∣ whole) :
    (nearest (whole * denominator) denominator).units = whole := by
  have hq : whole * denominator / denominator = whole := Nat.mul_div_cancel whole hd
  simp only [nearest, hq]
  generalize hg : Nat.pow 2 (whole.log2 - 52) = spacing at h
  have hp : 0 < spacing := by
    rw [← hg]
    exact Nat.pow_pos (by decide : 0 < 2)
  obtain ⟨count, rfl⟩ := h
  have he : spacing * count * denominator = denominator * spacing * count := by
    rw [Nat.mul_comm (spacing * count), Nat.mul_assoc]
  have hw : roundEven (denominator * spacing * count) (denominator * spacing) = count := by
    have hm : 0 < denominator * spacing := Nat.mul_pos hd hp
    simp only [roundEven, Nat.mul_mod_right, Nat.mul_zero, hm, if_true, Nat.mul_div_cancel_left]
  rw [he, hw, Nat.mul_comm]

/-- Numbers of up to 53 bits are multiples of their spacing. -/
theorem spacing_dvd {value : Nat} (h : value ≤ Nat.pow 2 53) (shift : Nat) :
    Nat.pow 2 ((value * Nat.pow 2 shift).log2 - 52) ∣ value * Nat.pow 2 shift := by
  have hp : Nat.pow 2 53 * Nat.pow 2 shift = Nat.pow 2 (53 + shift) :=
    (Nat.pow_add 2 53 shift).symm
  rcases Nat.lt_or_eq_of_le h with hv | hv
  · have hl : value * Nat.pow 2 shift < Nat.pow 2 (53 + shift) := by
      rw [← hp]
      exact Nat.mul_lt_mul_of_pos_right hv (Nat.pow_pos (by decide : 0 < 2))
    have hs : (value * Nat.pow 2 shift).log2 - 52 ≤ shift := by
      by_cases hz : value * Nat.pow 2 shift = 0
      · rw [hz]
        exact Nat.zero_le _
      · have hk := (Nat.log2_lt hz).mpr hl
        omega
    exact Nat.dvd_trans (Nat.pow_dvd_pow 2 hs) (Nat.dvd_mul_left _ value)
  · rw [hv, hp]
    have hl : (Nat.pow 2 (53 + shift)).log2 = 53 + shift := Nat.log2_two_pow
    rw [hl]
    exact Nat.pow_dvd_pow 2 (Nat.sub_le _ 52)

/-- Up to 53 bits, scaled by a power of two, are not rounded. -/
theorem nearest_units {value scale denominator : Nat} (h : value ≤ Nat.pow 2 53)
    (hs : ∃ shift, scale = Nat.pow 2 shift) (hd : 0 < denominator) :
    (nearest (value * scale * denominator) denominator).units = value * scale := by
  obtain ⟨shift, rfl⟩ := hs
  exact nearest_of_dvd hd (spacing_dvd h shift)

/-- A whole number of up to 53 bits is not rounded. -/
theorem ofNat_units {value : Nat} (h : value ≤ Nat.pow 2 53) :
    (ofNat value).units = value * unit := by
  have hs : ∃ shift, unit = Nat.pow 2 shift := ⟨1074, by decide +kernel⟩
  have hn := nearest_units h hs (by decide : 0 < 1)
  rwa [Nat.mul_one] at hn

/-- More than 53 bits are rounded to many units. -/
theorem le_ofNat {value : Nat} (h : Nat.pow 2 53 < value) :
    Nat.pow 2 52 * unit ≤ (ofNat value).units := by
  have hb := (nearest_bounds (value * unit) 1).2
  rw [Nat.div_one] at hb
  have hu := le_unit
  have hm : Nat.pow 2 53 * unit ≤ value * unit := Nat.mul_le_mul_right unit (Nat.le_of_lt h)
  have h53 : Nat.pow 2 53 = 9007199254740992 := rfl
  have h52 : Nat.pow 2 52 = 4503599627370496 := rfl
  rw [h53] at hm
  rw [ofNat, h52]
  omega

end Binary64

namespace Duration

open Binary64

/-- No reading of a stopwatch comes to so many units. -/
def sampleBound : Nat := Nat.pow 2 38 * unit

/-- The seconds of a span whose nanoseconds fit in 64 bits. -/
theorem seconds_le {span : Duration} (h : span.nanoseconds < Nat.pow 2 64) :
    span.seconds.units ≤ sampleBound := by
  have h64 : Nat.pow 2 64 = 18446744073709551616 := rfl
  have h38 : Nat.pow 2 38 = 274877906944 := rfl
  have hw : span.nanoseconds / perSecond ≤ 18446744073 := by
    rw [perSecond]
    omega
  have hf : span.nanoseconds % perSecond ≤ 1000000000 :=
    Nat.le_of_lt (Nat.mod_lt _ (by decide))
  have hwu := Nat.mul_le_mul_right unit hw
  have hfu := Nat.mul_le_mul_right unit hf
  have hwn := ofNat_le (span.nanoseconds / perSecond)
  have hfn := ofNat_le (span.nanoseconds % perSecond)
  have hd := div_le (Binary64.ofNat (span.nanoseconds % perSecond))
    (unit_le_ofNat (by decide : 0 < perSecond))
  have ha := add_le (Binary64.ofNat (span.nanoseconds / perSecond))
    ((Binary64.ofNat (span.nanoseconds % perSecond)).div (Binary64.ofNat perSecond))
  have hu := le_unit
  rw [seconds, sampleBound, h38]
  omega

/-- Samples that are no larger than readings sum up to no more than twice their count of the
largest of them. -/
theorem sum_le {samples : List Binary64} (h : ∀ sample ∈ samples, sample.units ≤ sampleBound)
    (start : Binary64) (hs : start.units + 2 * samples.length * sampleBound ≤ 4096 * sampleBound) :
    (samples.foldl Binary64.add start).units ≤
      start.units + 2 * samples.length * sampleBound := by
  induction samples generalizing start with
  | nil =>
    rw [List.foldl_nil]
    omega
  | cons sample samples ih =>
    have hm : 2 * (samples.length + 1) * sampleBound =
        2 * samples.length * sampleBound + 2 * sampleBound := by
      rw [Nat.mul_add, Nat.add_mul]
    rw [List.length_cons, hm] at hs ⊢
    have hb := h sample List.mem_cons_self
    have ha := add_le start sample
    have hp : 4 ≤ sampleBound := Nat.le_trans le_unit (Nat.le_mul_of_pos_left _ (by decide))
    have ht := ih (fun other ho => h other (List.mem_cons_of_mem _ ho)) (start.add sample)
      (by omega)
    rw [List.foldl_cons]
    omega

/-- The mean of at most a thousand readings is a span. -/
theorem mean_isSpan {samples : List Binary64} (hl : samples.length ≤ 1000)
    (h : ∀ sample ∈ samples, sample.units ≤ sampleBound) :
    (ofSeconds? (mean samples)).isSome = true := by
  have hm : 2 * samples.length * sampleBound ≤ 2000 * sampleBound :=
    Nat.mul_le_mul_right _ (by omega)
  have hz : zero.units = 0 := rfl
  have hs := sum_le h zero (by omega)
  have hd := div_le (samples.foldl Binary64.add zero)
    (unit_le_ofNat (by omega : 0 < max samples.length 1))
  have h64 : Nat.pow 2 64 = 18446744073709551616 := rfl
  have h38 : Nat.pow 2 38 = 274877906944 := rfl
  have hu := le_unit
  rw [sampleBound, h38] at hs hm
  rw [ofSeconds?, mean, h64, if_neg (by omega), Option.isSome_some]

end Duration

end MediaGateway
