import MediaGateway.Json.Written

/-!
# Numbers as they are spelled

A number is a sign or none, digits without a needless zero, and perhaps a fraction
and an exponent. What is read as a number is spelled so, and what is spelled so is
read, provided that what follows could not belong to it.
-/

namespace MediaGateway.Json

/-- The octets of decimal digits. -/
def digitOctets (digits : List Nat) : Bytes := digits.map fun digit => UInt8.ofNat (48 + digit)

/-- Decimal digits, at least one. -/
structure AreDigits (digits : List Nat) : Prop where
  /-- There is one. -/
  some : digits ≠ []
  /-- Each is decimal. -/
  decimal : ∀ digit ∈ digits, digit < 10

/-- Digits in front of a point: a zero stands alone. -/
structure AreWhole (digits : List Nat) : Prop extends AreDigits digits where
  /-- A leading zero has nothing behind it. -/
  lone : ∀ rest, digits = 0 :: rest → rest = []

/-- The octets that write digits behind a point. -/
inductive SpellsFraction : List Nat → Bytes → Prop where
  /-- There is no point. -/
  | none : SpellsFraction [] []
  /-- A point and digits. -/
  | some {digits : List Nat} (h : AreDigits digits) :
    SpellsFraction digits (0x2E :: digitOctets digits)

/-- The octets that write the sign of an exponent. -/
inductive SpellsSign : Bool → Bytes → Prop where
  /-- A minus sign. -/
  | minus : SpellsSign true [0x2D]
  /-- A plus sign. -/
  | plus : SpellsSign false [0x2B]
  /-- No sign. -/
  | none : SpellsSign false []

/-- The octets that write an exponent. -/
inductive SpellsExponent : Option (Bool × List Nat) → Bytes → Prop where
  /-- There is no exponent. -/
  | none : SpellsExponent .none []
  /-- A letter, a sign and digits. -/
  | some {isNegative : Bool} {digits : List Nat} {mark : UInt8} {sign : Bytes}
    (letter : mark = 0x65 ∨ mark = 0x45) (signed : SpellsSign isNegative sign)
    (h : AreDigits digits) :
    SpellsExponent (.some (isNegative, digits)) (mark :: (sign ++ digitOctets digits))

/-- The octets that write a number, its sign apart. -/
def Numeral.SpellsUnsigned (numeral : Numeral) (bytes : Bytes) : Prop :=
  AreWhole numeral.whole ∧ ∃ fraction exponent, SpellsFraction numeral.fraction fraction ∧
    SpellsExponent numeral.exponent exponent ∧
      bytes = digitOctets numeral.whole ++ (fraction ++ exponent)

/-- The octets that write a number. -/
def Numeral.Spells (numeral : Numeral) (bytes : Bytes) : Prop :=
  ∃ unsigned, numeral.SpellsUnsigned unsigned ∧
    bytes = if numeral.isNegative then 0x2D :: unsigned else unsigned

/-- Octets that cannot go on with a number. -/
def EndsNumber (bytes : Bytes) : Prop :=
  ∀ octet ∈ bytes.head?, isDigit octet = false ∧ octet ≠ 0x2E ∧ octet ≠ 0x65 ∧ octet ≠ 0x45

/-! ## Digits -/

/-- A decimal digit has an octet that is a digit and stands for it. -/
theorem isDigit_digit {digit : Nat} (h : digit < 10) :
    isDigit (UInt8.ofNat (48 + digit)) = true ∧ (UInt8.ofNat (48 + digit)).toNat - 48 = digit := by
  have hall : ∀ digit : Fin 10, isDigit (UInt8.ofNat (48 + digit.val)) = true ∧
      (UInt8.ofNat (48 + digit.val)).toNat - 48 = digit.val := by decide
  exact hall ⟨digit, h⟩

/-- An octet that is a digit is that of the decimal digit it stands for. -/
theorem eq_of_isDigit {octet : UInt8} (h : isDigit octet = true) :
    octet.toNat - 48 < 10 ∧ UInt8.ofNat (48 + (octet.toNat - 48)) = octet := by
  simp only [isDigit, Bool.and_eq_true, decide_eq_true_eq, UInt8.le_iff_toNat_le] at h
  have hl : 48 ≤ octet.toNat := h.1
  have hu : octet.toNat ≤ 57 := h.2
  refine ⟨by omega, ?_⟩
  rw [Nat.add_sub_of_le hl, UInt8.ofNat_toNat]

/-- Digits are read up to what is none. -/
theorem takeDigits_append {digits : List Nat} (h : ∀ digit ∈ digits, digit < 10) {rest : Bytes}
    (ends : ∀ octet ∈ rest.head?, isDigit octet = false) :
    takeDigits (digitOctets digits ++ rest) = (digits, rest) := by
  induction digits with
  | nil =>
    cases rest with
    | nil => rfl
    | cons octet rest =>
      have hn := ne_true_of_eq_false (ends octet rfl)
      rw [digitOctets, List.map_nil, List.nil_append, takeDigits,
        List.takeWhile_cons_of_neg hn, List.dropWhile_cons_of_neg hn, List.map_nil]
  | cons digit digits ih =>
    obtain ⟨hd, hv⟩ := isDigit_digit (h digit List.mem_cons_self)
    have hi := ih fun other member => h other (List.mem_cons_of_mem _ member)
    rw [takeDigits, Prod.mk.injEq] at hi
    rw [digitOctets, List.map_cons, List.cons_append, takeDigits,
      List.takeWhile_cons_of_pos hd, List.dropWhile_cons_of_pos hd, List.map_cons, hv]
    exact Prod.ext (congrArg (digit :: ·) hi.1) hi.2

/-- What is read as digits are decimal digits in front of the rest. -/
theorem takeDigits_eq {bytes rest : Bytes} {digits : List Nat}
    (h : takeDigits bytes = (digits, rest)) :
    (∀ digit ∈ digits, digit < 10) ∧ bytes = digitOctets digits ++ rest := by
  have hd : ∀ octet ∈ bytes.takeWhile isDigit, isDigit octet = true := fun octet member =>
    List.all_eq_true.mp List.all_takeWhile octet member
  obtain ⟨rfl, rfl⟩ := Prod.mk.inj h
  constructor
  · intro digit member
    obtain ⟨octet, ho, rfl⟩ := List.mem_map.mp member
    exact (eq_of_isDigit (hd octet ho)).1
  · have hm : digitOctets ((bytes.takeWhile isDigit).map fun octet => octet.toNat - 48) =
        bytes.takeWhile isDigit := by
      rw [digitOctets, List.map_map]
      exact (List.map_congr_left fun octet ho => (eq_of_isDigit (hd octet ho)).2).trans
        (List.map_id _)
    rw [hm, List.takeWhile_append_dropWhile]

/-- Some digits are read up to what is none. -/
theorem takeSomeDigits_append {digits : List Nat} (h : AreDigits digits) {rest : Bytes}
    (ends : ∀ octet ∈ rest.head?, isDigit octet = false) :
    takeSomeDigits (digitOctets digits ++ rest) = some (digits, rest) := by
  rw [takeSomeDigits, takeDigits_append h.decimal ends]
  cases digits with
  | nil => exact absurd rfl h.some
  | cons digit digits => rfl

/-- What is read as some digits are some. -/
theorem takeSomeDigits_eq {bytes rest : Bytes} {digits : List Nat}
    (h : takeSomeDigits bytes = some (digits, rest)) :
    AreDigits digits ∧ bytes = digitOctets digits ++ rest := by
  rw [takeSomeDigits] at h
  split at h
  · cases h
  next found after hn he =>
    obtain ⟨rfl, rfl⟩ := Prod.mk.inj (Option.some.inj h)
    obtain ⟨hd, hb⟩ := takeDigits_eq he
    exact ⟨⟨fun hz => hn (hz ▸ rfl), hd⟩, hb⟩

/-- Digits in front of a point are read up to what is none. -/
theorem takeWhole_append {digits : List Nat} (h : AreWhole digits) {rest : Bytes}
    (ends : ∀ octet ∈ rest.head?, isDigit octet = false) :
    takeWhole (digitOctets digits ++ rest) = some (digits, rest) := by
  rw [takeWhole, takeDigits_append h.decimal ends]
  split
  next he => exact absurd (Prod.mk.inj he).1 h.some
  next he => exact absurd (h.lone _ (Prod.mk.inj he).1) (List.cons_ne_nil _ _)
  next he => rw [he]

/-- What is read as digits in front of a point has no needless zero. -/
theorem takeWhole_eq {bytes rest : Bytes} {digits : List Nat}
    (h : takeWhole bytes = some (digits, rest)) :
    AreWhole digits ∧ bytes = digitOctets digits ++ rest := by
  rw [takeWhole] at h
  split at h
  · cases h
  · cases h
  next found after hn hz he =>
    obtain ⟨rfl, rfl⟩ := Prod.mk.inj (Option.some.inj h)
    obtain ⟨hd, hb⟩ := takeDigits_eq he
    refine ⟨⟨⟨fun h => hn (h ▸ rfl), hd⟩, fun more hm => ?_⟩, hb⟩
    cases more with
    | nil => rfl
    | cons digit more => exact absurd hm (hz digit more)

/-! ## Fractions and exponents -/

/-- A fraction, or none, is read up to what cannot go on with it. -/
theorem takeFraction_append {digits : List Nat} {bytes : Bytes} (h : SpellsFraction digits bytes)
    {rest : Bytes} (ends : ∀ octet ∈ rest.head?, isDigit octet = false ∧ octet ≠ 0x2E) :
    takeFraction (bytes ++ rest) = some (digits, rest) := by
  cases h with
  | none =>
    rw [List.nil_append, takeFraction]
    rintro more rfl
    exact (ends 0x2E rfl).2 rfl
  | some h => exact takeSomeDigits_append h fun octet ho => (ends octet ho).1

/-- What is read as a fraction is one, or none. -/
theorem takeFraction_eq {bytes rest : Bytes} {digits : List Nat}
    (h : takeFraction bytes = some (digits, rest)) :
    ∃ front, SpellsFraction digits front ∧ bytes = front ++ rest := by
  rw [takeFraction.eq_def] at h
  split at h
  next more =>
    obtain ⟨hd, rfl⟩ := takeSomeDigits_eq h
    exact ⟨_, .some hd, rfl⟩
  next hn =>
    obtain ⟨rfl, rfl⟩ := Prod.mk.inj (Option.some.inj h)
    exact ⟨[], .none, rfl⟩

/-- The sign of an exponent is told from its digits. -/
theorem takeExponent_signed {isNegative : Bool} {mark : UInt8} {sign : Bytes}
    (letter : mark = 0x65 ∨ mark = 0x45) (signed : SpellsSign isNegative sign)
    {digits : List Nat} (hd : AreDigits digits) (rest : Bytes) :
    takeExponent (mark :: (sign ++ (digitOctets digits ++ rest))) =
      (takeSomeDigits (digitOctets digits ++ rest)).map fun (digits, rest) =>
        (some (isNegative, digits), rest) := by
  have hm : (mark = 0x65 || mark = 0x45 : Bool) = true := by
    rcases letter with rfl | rfl <;> rfl
  rw [takeExponent.eq_def]
  dsimp only
  rw [if_pos hm]
  cases signed with
  | minus => rfl
  | plus => rfl
  | none =>
    cases digits with
    | nil => exact absurd rfl hd.some
    | cons digit digits =>
      have hi := (isDigit_digit (hd.decimal digit List.mem_cons_self)).1
      have hn : ∀ octet : UInt8, isDigit octet = false → UInt8.ofNat (48 + digit) ≠ octet := by
        rintro octet ho rfl
        exact absurd (hi.symm.trans ho) Bool.noConfusion
      rw [List.nil_append, digitOctets, List.map_cons, List.cons_append]
      split
      next he => exact absurd (List.cons.inj he).1 (hn 0x2B rfl)
      next he => exact absurd (List.cons.inj he).1 (hn 0x2D rfl)
      next => rfl

/-- An exponent, or none, is read up to what cannot go on with it. -/
theorem takeExponent_append {exponent : Option (Bool × List Nat)} {bytes : Bytes}
    (h : SpellsExponent exponent bytes) {rest : Bytes} (ends : EndsNumber rest) :
    takeExponent (bytes ++ rest) = some (exponent, rest) := by
  cases h with
  | none =>
    cases rest with
    | nil => rfl
    | cons octet rest =>
      obtain ⟨_, _, he, hE⟩ := ends octet rfl
      simp only [List.nil_append, takeExponent, he, hE, decide_false, Bool.or_false,
        Bool.false_eq_true, if_false]
  | some letter signed hd =>
    have hs := takeSomeDigits_append hd fun octet ho => (ends octet ho).1
    rw [List.cons_append, List.append_assoc, takeExponent_signed letter signed hd, hs,
      Option.map_some]

/-- What is read as an exponent is one, or none. -/
theorem takeExponent_eq {bytes rest : Bytes} {exponent : Option (Bool × List Nat)}
    (h : takeExponent bytes = some (exponent, rest)) :
    ∃ front, SpellsExponent exponent front ∧ bytes = front ++ rest := by
  cases bytes with
  | nil =>
    obtain ⟨rfl, rfl⟩ := Prod.mk.inj (Option.some.inj h)
    exact ⟨[], .none, rfl⟩
  | cons mark bytes =>
    rw [takeExponent.eq_def] at h
    dsimp only at h
    split at h
    next hm =>
      have letter : mark = 0x65 ∨ mark = 0x45 := by
        rw [Bool.or_eq_true, decide_eq_true_eq, decide_eq_true_eq] at hm
        exact hm
      have hs : ∀ {isNegative : Bool} {sign digits : Bytes}, SpellsSign isNegative sign →
          bytes = sign ++ digits →
          ((takeSomeDigits digits).map fun (digits, rest) =>
            (Option.some (isNegative, digits), rest)) = some (exponent, rest) →
            ∃ front, SpellsExponent exponent front ∧ mark :: bytes = front ++ rest := by
        rintro isNegative sign digits signed rfl hr
        obtain ⟨⟨found, after⟩, ht, he⟩ := Option.map_eq_some_iff.mp hr
        obtain ⟨rfl, rfl⟩ := Prod.mk.inj he
        obtain ⟨hd, rfl⟩ := takeSomeDigits_eq ht
        exact ⟨_, .some letter signed hd, by rw [List.cons_append, List.append_assoc]⟩
      split at h
      · exact hs .plus rfl h
      · exact hs .minus rfl h
      · exact hs .none rfl h
    next =>
      obtain ⟨rfl, rfl⟩ := Prod.mk.inj (Option.some.inj h)
      exact ⟨[], .none, rfl⟩

/-! ## Numbers -/

/-- What cannot go on with a number cannot go on with its digits. -/
theorem SpellsExponent.ends {exponent : Option (Bool × List Nat)} {bytes : Bytes}
    (h : SpellsExponent exponent bytes) {rest : Bytes} (ends : EndsNumber rest) :
    ∀ octet ∈ (bytes ++ rest).head?, isDigit octet = false ∧ octet ≠ 0x2E := by
  cases h with
  | none => exact fun octet ho => ⟨(ends octet ho).1, (ends octet ho).2.1⟩
  | some letter signed hd =>
    intro octet ho
    obtain rfl := Option.some.inj ho
    rcases letter with rfl | rfl <;> decide

/-- What is no digit behind a fraction is none behind the digits in front of its point. -/
theorem SpellsFraction.ends {digits : List Nat} {bytes : Bytes} (h : SpellsFraction digits bytes)
    {rest : Bytes} (ends : ∀ octet ∈ rest.head?, isDigit octet = false) :
    ∀ octet ∈ (bytes ++ rest).head?, isDigit octet = false := by
  cases h with
  | none => exact ends
  | some h =>
    intro octet ho
    obtain rfl := Option.some.inj ho
    rfl

/-- A number whose sign is read is read up to what cannot go on with it. -/
theorem takeNumeral_append {numeral : Numeral} {bytes : Bytes} (h : numeral.SpellsUnsigned bytes)
    {rest : Bytes} (ends : EndsNumber rest) :
    takeNumeral numeral.isNegative (bytes ++ rest) = some (numeral, rest) := by
  obtain ⟨hw, fraction, exponent, hf, he, rfl⟩ := h
  have hx := he.ends ends
  have hy := hf.ends fun octet ho => (hx octet ho).1
  rw [List.append_assoc, List.append_assoc, takeNumeral, takeWhole_append hw hy]
  simp only [Option.bind_some, takeFraction_append hf hx, takeExponent_append he ends,
    Option.map_some]

/-- What is read as a number whose sign is read is one. -/
theorem takeNumeral_eq {isNegative : Bool} {bytes rest : Bytes} {numeral : Numeral}
    (h : takeNumeral isNegative bytes = some (numeral, rest)) :
    numeral.isNegative = isNegative ∧
      ∃ front, numeral.SpellsUnsigned front ∧ bytes = front ++ rest := by
  rw [takeNumeral] at h
  obtain ⟨⟨whole, behind⟩, hw, h⟩ := Option.bind_eq_some_iff.mp h
  obtain ⟨⟨fraction, after⟩, hf, h⟩ := Option.bind_eq_some_iff.mp h
  obtain ⟨⟨exponent, last⟩, he, h⟩ := Option.map_eq_some_iff.mp h
  obtain ⟨rfl, rfl⟩ := Prod.mk.inj h
  obtain ⟨spelledWhole, rfl⟩ := takeWhole_eq hw
  obtain ⟨fractionOctets, spelledFraction, rfl⟩ := takeFraction_eq hf
  obtain ⟨exponentOctets, spelledExponent, rfl⟩ := takeExponent_eq he
  exact ⟨rfl, _, ⟨spelledWhole, fractionOctets, exponentOctets, spelledFraction, spelledExponent,
    rfl⟩, by rw [List.append_assoc, List.append_assoc]⟩

/-- A number begins with a digit, its sign apart. -/
theorem Numeral.SpellsUnsigned.begins {numeral : Numeral} {bytes : Bytes}
    (h : numeral.SpellsUnsigned bytes) :
    ∃ octet more, bytes = octet :: more ∧ isDigit octet = true := by
  obtain ⟨hw, fraction, exponent, _, _, rfl⟩ := h
  cases hd : numeral.whole with
  | nil => exact absurd hd hw.some
  | cons digit digits =>
    exact ⟨_, _, rfl, (isDigit_digit (hw.decimal digit (hd ▸ List.mem_cons_self))).1⟩

end MediaGateway.Json
