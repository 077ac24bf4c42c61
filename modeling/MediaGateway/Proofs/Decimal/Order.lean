import MediaGateway.Proofs.Decimal.Rounding

/-!
# Rounding keeps the order

What is larger is not rounded to something smaller, also where the spacing changes in
between, and a whole number and its multiples by powers of two are rounded alike. So
two whole numbers compare after rounding as they did before, or they become the same.
-/

namespace MediaGateway.Binary64

/-- A larger quotient is not rounded to a smaller whole number. -/
theorem roundEven_mono (denominator : Nat) {small large : Nat} (h : small ≤ large) :
    roundEven small denominator ≤ roundEven large denominator := by
  have hq : small / denominator ≤ large / denominator := Nat.div_le_div_right h
  have hs := Nat.div_add_mod small denominator
  have hl := Nat.div_add_mod large denominator
  rcases Nat.lt_or_eq_of_le hq with hlt | heq
  · exact Nat.le_trans (roundEven_bounds small denominator).2
      (Nat.le_trans hlt (roundEven_bounds large denominator).1)
  · -- The quotients are the same, so the remainders compare as the numbers do.
    rw [heq] at hs
    have hr : small % denominator ≤ large % denominator := by omega
    simp only [roundEven, heq]
    repeat' split
    all_goals omega

/-- A quotient with a certain logarithm is rounded to the next power of two at most. -/
theorem nearest_le_pow (numerator denominator : Nat) :
    (nearest numerator denominator).units ≤
      Nat.pow 2 ((numerator / denominator).log2 + 1) := by
  generalize hw : numerator / denominator = whole
  have hb := (roundEven_bounds numerator (denominator * Nat.pow 2 (whole.log2 - 52))).2
  rw [← Nat.div_div_eq_div_mul, hw] at hb
  have hp : Nat.pow 2 (whole.log2 + 1) =
      Nat.pow 2 (whole.log2 + 1 - (whole.log2 - 52)) * Nat.pow 2 (whole.log2 - 52) := by
    have ha := Nat.pow_add 2 (whole.log2 + 1 - (whole.log2 - 52)) (whole.log2 - 52)
    rwa [Nat.sub_add_cancel (by omega)] at ha
  have hl : whole < Nat.pow 2 (whole.log2 + 1) := Nat.lt_log2_self
  rw [hp] at hl
  have hd := Nat.div_lt_of_lt_mul (Nat.mul_comm _ _ ▸ hl)
  simp only [nearest, hw]
  rw [hp]
  exact Nat.mul_le_mul_right _ (Nat.le_trans hb hd)

/-- A quotient that is not zero is rounded to the power of two below it at least. -/
theorem pow_le_nearest {numerator denominator : Nat} (h : numerator / denominator ≠ 0) :
    Nat.pow 2 (numerator / denominator).log2 ≤ (nearest numerator denominator).units := by
  generalize hw : numerator / denominator = whole at h
  have hb := (roundEven_bounds numerator (denominator * Nat.pow 2 (whole.log2 - 52))).1
  rw [← Nat.div_div_eq_div_mul, hw] at hb
  have hp : Nat.pow 2 whole.log2 =
      Nat.pow 2 (whole.log2 - (whole.log2 - 52)) * Nat.pow 2 (whole.log2 - 52) := by
    have ha := Nat.pow_add 2 (whole.log2 - (whole.log2 - 52)) (whole.log2 - 52)
    rwa [Nat.sub_add_cancel (by omega)] at ha
  have hl : Nat.pow 2 whole.log2 ≤ whole := Nat.log2_self_le h
  rw [hp] at hl
  have hd := (Nat.le_div_iff_mul_le (Nat.pow_pos (by decide : 0 < 2))).mpr hl
  simp only [nearest, hw]
  rw [hp]
  exact Nat.mul_le_mul_right _ (Nat.le_trans hd hb)

/-- A larger number has no smaller logarithm. -/
theorem log2_mono {small large : Nat} (h : small ≤ large) : small.log2 ≤ large.log2 := by
  by_cases hz : small = 0
  · rw [hz]
    exact Nat.zero_le _
  · exact (Nat.le_log2 (by omega)).mpr (Nat.le_trans (Nat.log2_self_le hz) h)

/-- A power of two adds its exponent to a logarithm. -/
theorem log2_mul_pow {whole : Nat} (h : whole ≠ 0) (shift : Nat) :
    (whole * Nat.pow 2 shift).log2 = whole.log2 + shift := by
  have hp : 0 < Nat.pow 2 shift := Nat.pow_pos (by decide : 0 < 2)
  have lower := Nat.mul_le_mul_right (Nat.pow 2 shift) (Nat.log2_self_le h)
  have upper := Nat.mul_lt_mul_of_pos_right (Nat.lt_log2_self (n := whole)) hp
  rw [Nat.log2_eq_iff (Nat.mul_ne_zero h (Nat.ne_of_gt hp)), Nat.add_right_comm, Nat.pow_add,
    Nat.pow_add 2 (whole.log2 + 1)]
  exact ⟨lower, upper⟩

/-- A larger quotient is not rounded to a smaller number. -/
theorem nearest_mono (denominator : Nat) {small large : Nat} (h : small ≤ large) :
    (nearest small denominator).units ≤ (nearest large denominator).units := by
  have hl := log2_mono (Nat.div_le_div_right (c := denominator) h)
  rcases Nat.lt_or_eq_of_le hl with hlt | heq
  · have hn : large / denominator ≠ 0 := by
      intro hz
      rw [hz] at hlt
      exact absurd hlt (Nat.not_lt_zero _)
    calc (nearest small denominator).units
        ≤ Nat.pow 2 ((small / denominator).log2 + 1) := nearest_le_pow small denominator
      _ ≤ Nat.pow 2 (large / denominator).log2 := Nat.pow_le_pow_right (by decide) hlt
      _ ≤ (nearest large denominator).units := pow_le_nearest hn
  · simp only [nearest, heq]
    exact Nat.mul_le_mul_right _ (roundEven_mono _ h)

/-- A larger whole number is not rounded to a smaller one. -/
theorem ofNat_mono {small large : Nat} (h : small ≤ large) :
    (ofNat small).units ≤ (ofNat large).units :=
  nearest_mono 1 (Nat.mul_le_mul_right unit h)

/-- A whole number with enough bits and its multiple by a power of two are rounded alike. -/
theorem nearest_mul_pow {whole : Nat} (h : 52 ≤ whole.log2) (shift : Nat) :
    (nearest (whole * Nat.pow 2 shift) 1).units = (nearest whole 1).units * Nat.pow 2 shift := by
  have hz : whole ≠ 0 := by
    rintro rfl
    exact absurd h (by decide)
  have hp : 0 < Nat.pow 2 shift := Nat.pow_pos (by decide : 0 < 2)
  have hl := log2_mul_pow hz shift
  have hs : Nat.pow 2 (whole.log2 + shift - 52) =
      Nat.pow 2 (whole.log2 - 52) * Nat.pow 2 shift := by
    have ha := Nat.pow_add 2 (whole.log2 - 52) shift
    rwa [← Nat.sub_add_comm h] at ha
  have hr : ∀ spacing, roundEven (whole * Nat.pow 2 shift) (spacing * Nat.pow 2 shift) =
      roundEven whole spacing := by
    intro spacing
    simp only [roundEven, Nat.mul_div_mul_right _ _ hp, Nat.mul_mod_mul_right,
      ← Nat.mul_assoc 2, Nat.mul_lt_mul_right hp]
  simp only [nearest, Nat.div_one, Nat.one_mul, hl, hs, hr, Nat.mul_assoc]

/-- Units that make up one are a power of two with many bits. -/
theorem unit_eq_pow : ∃ shift, unit = Nat.pow 2 (shift + 72) :=
  ⟨1002, by decide +kernel⟩

/-- A whole number and its multiple by a power of two are rounded alike. -/
theorem ofNat_mul_pow (value shift : Nat) :
    (ofNat (value * Nat.pow 2 shift)).units = (ofNat value).units * Nat.pow 2 shift := by
  by_cases hv : value = 0
  · subst hv
    rw [Nat.zero_mul, ofNat_units (Nat.zero_le _), Nat.zero_mul, Nat.zero_mul]
  · obtain ⟨bits, hu⟩ := unit_eq_pow
    have hl : 52 ≤ (value * unit).log2 := by
      rw [hu, log2_mul_pow hv]
      omega
    rw [ofNat, ofNat, Nat.mul_right_comm, nearest_mul_pow hl]

/-- A rounded whole number has 53 bits at most, and many zeros behind them. -/
theorem exists_bits (value : Nat) :
    ∃ count shift, count ≤ Nat.pow 2 53 ∧ (ofNat value).units = count * Nat.pow 2 (shift + 20) := by
  by_cases hv : value = 0
  · subst hv
    exact ⟨0, 0, Nat.zero_le _, by rw [ofNat_units (Nat.zero_le _), Nat.zero_mul, Nat.zero_mul]⟩
  · obtain ⟨bits, hu⟩ := unit_eq_pow
    have hl := log2_mul_pow hv (bits + 72)
    have hb := nearest_le_pow (value * unit) 1
    have hs : (value * unit).log2 - 52 = value.log2 + bits + 20 := by
      rw [hu, hl]
      omega
    have hp : Nat.pow 2 ((value * unit).log2 + 1) =
        Nat.pow 2 53 * Nat.pow 2 (value.log2 + bits + 20) := by
      have ha := Nat.pow_add 2 53 (value.log2 + bits + 20)
      have he : (value * unit).log2 + 1 = 53 + (value.log2 + bits + 20) := by
        rw [hu, hl]
        omega
      rw [he]
      exact ha
    simp only [nearest, Nat.div_one, hp, hs] at hb
    refine ⟨roundEven (value * unit) (1 * Nat.pow 2 (value.log2 + bits + 20)), value.log2 + bits,
      ?_, by simp only [ofNat, nearest, Nat.div_one, hs]⟩
    exact Nat.le_of_mul_le_mul_right hb (Nat.pow_pos (by decide : 0 < 2))

/-- A rounded whole number is divided by 2 ^ 20 without more rounding. -/
theorem div_exact (value : Nat) {divisor : Nat} (hd : divisor = Nat.pow 2 20) :
    ((ofNat value).div (ofNat divisor)).units * divisor = (ofNat value).units := by
  obtain ⟨count, shift, hc, hn⟩ := exists_bits value
  have hs : divisor ≤ Nat.pow 2 53 := by
    rw [hd]
    decide
  have hp : 0 < divisor * unit := by
    rw [hd]
    exact Nat.mul_pos (by decide) (Nat.lt_of_lt_of_le (by decide) le_unit)
  have he : (ofNat value).units = count * Nat.pow 2 shift * divisor := by
    rw [hn, hd, Nat.mul_assoc]
    exact congrArg (count * ·) (Nat.pow_add 2 shift 20)
  rw [div, ofNat_units hs, he, Nat.mul_assoc _ divisor, nearest_of_dvd hp (spacing_dvd hc shift)]

end MediaGateway.Binary64
