import MediaGateway.Proofs.Json.Quoted

/-!
# Numbers as they are written

A number is written in digits that spell it. A whole one is written without a
point, and reads back as itself.
-/

namespace MediaGateway.Json

/-- Decimal digits are written by their characters. -/
theorem octetsOf_digits {digits : List Nat} (h : ∀ digit ∈ digits, digit < 10) :
    octetsOf (digits.map Nat.digitChar) = digitOctets digits := by
  have hall : ∀ digit : Fin 10,
      String.utf8EncodeChar (Nat.digitChar digit.val) = [UInt8.ofNat (48 + digit.val)] := by decide
  induction digits with
  | nil => rfl
  | cons digit digits ih =>
    have hd := hall ⟨digit, h digit List.mem_cons_self⟩
    rw [List.map_cons, octetsOf, List.flatMap_cons, hd, digitOctets, List.map_cons]
    exact congrArg (UInt8.ofNat (48 + digit) :: ·)
      (ih fun other member => h other (List.mem_cons_of_mem _ member))

/-- One more digit behind others makes ten times their number and itself. -/
theorem digitsValue_append (digits : List Nat) (digit : Nat) :
    digitsValue (digits ++ [digit]) = digitsValue digits * 10 + digit := by
  rw [digitsValue, List.foldl_append]
  rfl

/-- A number is written in digits that make it up, without a needless zero. -/
theorem exists_digits (value : Nat) :
    ∃ digits, AreWhole digits ∧ digitsValue digits = value ∧
      digitChars value = digits.map Nat.digitChar := by
  induction value using Nat.strongRecOn with
  | ind value ih =>
    by_cases hv : value < 10
    · refine ⟨[value], ⟨⟨List.cons_ne_nil _ _, fun digit member => ?_⟩, fun rest hr => ?_⟩, ?_, ?_⟩
      · rw [List.mem_singleton.mp member]
        exact hv
      · exact (List.cons.inj hr).2.symm
      · rw [digitsValue, List.foldl_cons, List.foldl_nil, Nat.zero_mul, Nat.zero_add]
      · rw [digitChars, Nat.toDigits_of_lt_base hv, List.map_singleton]
    · obtain ⟨digits, whole, hd, hc⟩ := ih (value / 10) (by omega)
      refine ⟨digits ++ [value % 10], ⟨⟨?_, ?_⟩, ?_⟩, ?_, ?_⟩
      · exact List.append_ne_nil_of_right_ne_nil _ (List.cons_ne_nil _ _)
      · intro digit member
        rcases List.mem_append.mp member with front | last
        · exact whole.decimal digit front
        · rw [List.mem_singleton.mp last]
          exact Nat.mod_lt _ (by decide)
      · intro rest hr
        cases digits with
        | nil => exact absurd rfl whole.some
        | cons digit digits =>
          obtain ⟨rfl, -⟩ := List.cons.inj hr
          -- A zero in front would have stood alone, and then the number would have one digit.
          obtain rfl := whole.lone digits rfl
          have hz : digitsValue [0] = 0 := rfl
          omega
      · rw [digitsValue_append, hd]
        omega
      · rw [digitChars, Nat.toDigits_of_base_le (by decide) (Nat.not_lt.mp hv), List.map_append,
          ← digitChars, hc, List.map_singleton]

/-- A whole number of digits is spelled by them. -/
theorem spells_digits {digits : List Nat} (h : AreWhole digits) (isNegative : Bool) :
    Numeral.SpellsUnsigned ⟨isNegative, digits, [], none⟩ (digitOctets digits) :=
  ⟨h, [], [], .none, .none, by rw [List.append_nil, List.append_nil]⟩

/-! ## Numbers with a point -/

/-- Digits that begin with one other than zero. -/
structure AreSignificant (digits : List Nat) : Prop extends AreDigits digits where
  /-- The first is not zero. -/
  leading : ∀ rest, digits ≠ 0 :: rest

/-- The digits of a number other than zero begin with one other than zero. -/
theorem AreWhole.significant {digits : List Nat} (h : AreWhole digits)
    (hv : digitsValue digits ≠ 0) : AreSignificant digits := by
  refine ⟨h.toAreDigits, ?_⟩
  rintro rest rfl
  obtain rfl := h.lone rest rfl
  exact hv rfl

/-- Such digits have no needless zero, whatever digits follow them. -/
theorem AreSignificant.append {digits : List Nat} (h : AreSignificant digits) {more : List Nat}
    (hm : ∀ digit ∈ more, digit < 10) : AreWhole (digits ++ more) := by
  refine ⟨⟨List.append_ne_nil_of_left_ne_nil h.some _, fun digit member => ?_⟩, fun rest he => ?_⟩
  · exact (List.mem_append.mp member).elim (h.decimal digit) (hm digit)
  · cases digits with
    | nil => exact absurd rfl h.some
    | cons digit digits => exact absurd (congrArg (· :: digits) (List.cons.inj he).1) (h.leading _)

/-- So do the first of them. -/
theorem AreSignificant.take {digits : List Nat} (h : AreSignificant digits) {count : Nat}
    (hc : 0 < count) : AreWhole (digits.take count) := by
  obtain ⟨less, rfl⟩ : ∃ less, count = less + 1 := ⟨count - 1, by omega⟩
  cases digits with
  | nil => exact absurd rfl h.some
  | cons digit digits =>
    rw [List.take_succ_cons]
    refine ⟨⟨List.cons_ne_nil _ _, fun other member => ?_⟩, fun rest he => ?_⟩
    · refine h.decimal other ?_
      rw [← List.take_succ_cons] at member
      exact List.mem_of_mem_take member
    · exact absurd (congrArg (· :: digits) (List.cons.inj he).1) (h.leading _)

/-- What is left of digits are digits. -/
theorem AreDigits.drop {digits : List Nat} (h : AreDigits digits) {count : Nat}
    (hc : count < digits.length) : AreDigits (digits.drop count) := by
  refine ⟨?_, fun digit member => h.decimal digit (List.mem_of_mem_drop member)⟩
  rw [Ne, List.drop_eq_nil_iff]
  omega

/-- Zeros are digits. -/
theorem zeros_decimal (count : Nat) : ∀ digit ∈ List.replicate count 0, digit < 10 := by
  intro digit member
  rw [List.eq_of_mem_replicate member]
  decide

/-- Characters that spell a number with a sign or without one. -/
def AreSpelled (chars : List Char) : Prop :=
  ∀ isNegative, ∃ numeral : Numeral, numeral.isNegative = isNegative ∧
    numeral.SpellsUnsigned (octetsOf chars)

/-- Digits in front of a point and digits behind it spell a number. -/
theorem areSpelled_pointed {whole fraction : List Nat} (hw : AreWhole whole)
    (hf : AreDigits fraction) :
    AreSpelled (whole.map Nat.digitChar ++ '.' :: fraction.map Nat.digitChar) := by
  intro isNegative
  refine ⟨⟨isNegative, whole, fraction, none⟩, rfl, hw, _, [], .some hf, .none, ?_⟩
  rw [octetsOf_append, octetsOf_digits hw.decimal, octetsOf, List.flatMap_cons, List.append_nil]
  exact congrArg (digitOctets whole ++ 0x2E :: ·) (octetsOf_digits hf.decimal)

/-- A single zero is a whole number. -/
theorem areWhole_zero : AreWhole [0] :=
  ⟨⟨List.cons_ne_nil 0 [], by decide⟩, fun _ he => (List.cons.inj he).2.symm⟩

/-- The characters of an exponent spell one. -/
theorem exists_exponent (exponent : Int) :
    ∃ power octets, SpellsExponent power octets ∧
      octetsOf ('e' :: (if exponent < 0 then '-' else '+') :: digitChars exponent.natAbs) =
        octets := by
  obtain ⟨digits, whole, _, hc⟩ := exists_digits exponent.natAbs
  have ho := octetsOf_digits whole.decimal
  have he : octetsOf ('e' :: (if exponent < 0 then '-' else '+') :: digitChars exponent.natAbs) =
      0x65 :: (if exponent < 0 then 0x2D else 0x2B) :: digitOctets digits := by
    rw [hc, ← ho]
    split <;> rfl
  rw [he]
  split
  · exact ⟨_, _, .some (.inl rfl) .minus whole.toAreDigits, rfl⟩
  · exact ⟨_, _, .some (.inl rfl) .plus whole.toAreDigits, rfl⟩

/-- A decimal other than zero is written as a number. -/
theorem areSpelled_scaled {scaled : Decimal.Scaled} (h : scaled.digits ≠ 0) :
    AreSpelled (scaledChars scaled) := by
  obtain ⟨digits, whole, hv, hc⟩ := exists_digits scaled.digits
  have hs := whole.significant (hv.symm ▸ h)
  have hl : 0 < digits.length := List.length_pos_iff.mpr hs.some
  have hz : ∀ zeros, List.replicate zeros '0' = (List.replicate zeros 0).map Nat.digitChar :=
    fun zeros => by rw [List.map_replicate]; rfl
  rw [scaledChars, hc]
  dsimp only
  rw [List.length_map]
  -- The point stands behind the digits, among them or in front of them, or there is an exponent.
  split
  next hp =>
    rw [hz, ← List.map_append]
    exact areSpelled_pointed (hs.append (zeros_decimal _)) ⟨List.cons_ne_nil 0 [], by decide⟩
  · split
    next hn hp =>
      have he : ¬0 ≤ scaled.exponent := fun he => hn ⟨he, hp.2⟩
      rw [← List.map_take, ← List.map_drop]
      exact areSpelled_pointed (hs.take (by omega)) (hs.toAreDigits.drop (by omega))
    · split
      next =>
        have hf : AreDigits (List.replicate (-(↑digits.length + scaled.exponent)).toNat 0
            ++ digits) := by
          refine ⟨List.append_ne_nil_of_right_ne_nil _ hs.some, fun digit member => ?_⟩
          exact (List.mem_append.mp member).elim (zeros_decimal _ digit) (hs.decimal digit)
        rw [hz, ← List.map_append]
        exact areSpelled_pointed areWhole_zero hf
      next =>
        intro isNegative
        obtain ⟨power, octets, hx, ho⟩ := exists_exponent (↑digits.length + scaled.exponent - 1)
        have hw := hs.take (by decide : 0 < 1)
        rw [← List.map_take, ← List.map_drop, octetsOf_append, octetsOf_append,
          octetsOf_digits hw.decimal, ho]
        split
        next hr =>
          exact ⟨⟨isNegative, digits.take 1, [], power⟩, rfl, hw, [], octets, .none, hx, by
            rw [List.append_assoc]; rfl⟩
        next hr =>
          have hf : AreDigits (digits.drop 1) := by
            refine ⟨fun hn => hr (by rw [hn]; rfl), fun digit member => ?_⟩
            exact hs.decimal digit (List.mem_of_mem_drop member)
          refine ⟨⟨isNegative, digits.take 1, digits.drop 1, power⟩, rfl, hw, _, octets, .some hf,
            hx, ?_⟩
          rw [List.append_assoc, ← octetsOf_digits hf.decimal]
          rfl

/-! ## All numbers -/

/-- Dropping zeros at the end leaves digits other than zero. -/
theorem dropZeros_ne_zero (fuel : Nat) {scaled : Decimal.Scaled} (h : scaled.digits ≠ 0) :
    (scaled.dropZeros fuel).digits ≠ 0 := by
  induction fuel generalizing scaled with
  | zero => exact h
  | succ fuel ih =>
    rw [Decimal.Scaled.dropZeros]
    split
    next hd =>
      refine ih ?_
      dsimp only
      omega
    next => exact h

/-- The finest unit is one. -/
theorem finest_pos : 0 < Decimal.finest := by decide +kernel

/-- Numbers that round to one other than zero are not zero. -/
theorem interval_lower_pos {value : Binary64} (h : value.units ≠ 0) :
    0 < (Decimal.interval value).lower := by
  have hg : Nat.pow 2 (value.units.log2 - 52) ≤ value.units :=
    Nat.le_trans (Nat.pow_le_pow_right (by decide) (Nat.sub_le _ _)) (Nat.log2_self_le h)
  rw [Decimal.interval]
  dsimp only
  refine Nat.mul_pos ?_ finest_pos
  split <;> omega

/-- What is found on a grid rounds to the middle. -/
theorem onGrid_holds {range : Decimal.Interval} {step digits : Nat}
    (h : range.onGrid? step = some digits) : range.holds (digits * step) = true := by
  have hc : ∀ nearer other : Nat, (if range.holds (nearer * step) then some nearer
      else if range.holds (other * step) then some other else none) = some digits →
        range.holds (digits * step) = true := by
    intro nearer other he
    split at he
    next hn =>
      obtain rfl := Option.some.inj he
      exact hn
    · split at he
      next ho =>
        obtain rfl := Option.some.inj he
        exact ho
      · cases he
  exact hc _ _ h

/-- The first grid that holds a number is found with digits other than zero. -/
theorem firstGrid_ne_zero {value : Binary64} (h : value.units ≠ 0) (places : Nat) :
    ((Decimal.interval value).firstGrid places).digits ≠ 0 := by
  have hl := interval_lower_pos h
  -- What rounds to the number is at least as large as the lower end, which is not zero.
  have hh : ∀ {quarters : Nat}, (Decimal.interval value).holds quarters = true → quarters ≠ 0 := by
    intro quarters hq
    rw [Decimal.Interval.holds] at hq
    split at hq <;> simp only [Bool.and_eq_true, decide_eq_true_eq] at hq <;> omega
  induction places with
  | zero =>
    have hm : (Decimal.interval value).middle = 4 * (value.units * Decimal.finest) :=
      Nat.mul_assoc ..
    rw [Decimal.Interval.firstGrid, hm, Nat.mul_div_cancel_left _ (by decide)]
    exact Nat.mul_ne_zero h (Nat.ne_of_gt finest_pos)
  | succ places ih =>
    rw [Decimal.Interval.firstGrid]
    split
    next digits hg =>
      rintro rfl
      exact hh (onGrid_holds hg) (Nat.zero_mul _)
    next => exact ih

/-- The shortest decimal of a number other than zero is not zero. -/
theorem shortest_ne_zero {value : Binary64} (h : value.units ≠ 0) :
    (Decimal.shortest value).digits ≠ 0 := by
  rw [Decimal.shortest]
  exact dropZeros_ne_zero _ (firstGrid_ne_zero h _)

/-- With a sign in front or without one they spell a number. -/
theorem AreSpelled.signed {chars : List Char} (h : AreSpelled chars) (isNegative : Bool) :
    ∃ numeral : Numeral,
      numeral.Spells (octetsOf (if isNegative then '-' :: chars else chars)) := by
  obtain ⟨numeral, hn, hu⟩ := h isNegative
  refine ⟨numeral, _, hu, ?_⟩
  rw [hn]
  cases isNegative with
  | false => rfl
  | true => rfl

/-- The characters of a number that is not whole spell one when its sign is left out. -/
theorem areSpelled_real (size : Binary64) :
    AreSpelled (if size.units = 0 then ['0', '.', '0']
      else scaledChars (Decimal.shortest size)) := by
  split
  · exact areSpelled_pointed areWhole_zero areWhole_zero.toAreDigits
  next h => exact areSpelled_scaled (shortest_ne_zero h)

/-- Every number is written as a number. -/
theorem exists_spelled_number (number : Number) :
    ∃ numeral : Numeral, numeral.Spells (octetsOf number.chars) := by
  cases number with
  | natural value =>
    obtain ⟨digits, whole, _, hc⟩ := exists_digits value
    refine ⟨_, _, spells_digits whole false, ?_⟩
    rw [Number.chars, hc, octetsOf_digits whole.decimal]
    rfl
  | negative value =>
    obtain ⟨digits, whole, _, hc⟩ := exists_digits value
    refine ⟨_, _, spells_digits whole true, ?_⟩
    rw [Number.chars, hc, octetsOf, List.flatMap_cons]
    exact congrArg (0x2D :: ·) (octetsOf_digits whole.decimal)
  | real isNegative size =>
    rw [Number.chars]
    exact (areSpelled_real size).signed isNegative

/-- A whole number that 64 bits hold. -/
def Number.IsWhole : Number → Prop
  | natural value => value < Nat.pow 2 64
  | negative value => value ≠ 0 ∧ value ≤ Nat.pow 2 63
  | real _ _ => False

/-- A whole number is written as digits that are read as it. -/
theorem exists_read_number {number : Number} (h : number.IsWhole) :
    ∃ numeral : Numeral, numeral.Spells (octetsOf number.chars) ∧
      numeral.number? = some number := by
  cases number with
  | natural value =>
    obtain ⟨digits, whole, hv, hc⟩ := exists_digits value
    refine ⟨⟨false, digits, [], none⟩, ⟨_, spells_digits whole false, ?_⟩, ?_⟩
    · rw [Number.chars, hc, octetsOf_digits whole.decimal]
      rfl
    · have hb : value < Nat.pow 2 64 := h
      simp only [Numeral.number?, Numeral.isWhole, decide_true, Option.isNone_none, Bool.and_true,
        Bool.not_true, Bool.false_eq_true, if_false, hv, hb, if_true]
  | negative value =>
    obtain ⟨digits, whole, hv, hc⟩ := exists_digits value
    refine ⟨⟨true, digits, [], none⟩, ⟨_, spells_digits whole true, ?_⟩, ?_⟩
    · rw [Number.chars, hc, octetsOf, List.flatMap_cons]
      exact congrArg (0x2D :: ·) (octetsOf_digits whole.decimal)
    · have hb : ¬(value = 0 ∨ Nat.pow 2 63 < value) :=
        fun hn => hn.elim h.1 (Nat.not_lt.mpr h.2)
      simp only [Numeral.number?, Numeral.isWhole, decide_true, Option.isNone_none, Bool.and_true,
        Bool.not_true, Bool.false_eq_true, if_false, if_true, hv, hb]
  | real isNegative size => exact h.elim

end MediaGateway.Json
