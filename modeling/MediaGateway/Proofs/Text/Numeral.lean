import Mathlib.Data.List.TakeWhile
import MediaGateway.Proofs.Settings.Value
import MediaGateway.Text.Blank

/-!
# Signed numbers and what stands around them

A signed number is written by decimal digits with a sign in front of them or without,
and is read when it is in the range of 64 bits. What is dropped at both ends of a text
is what satisfies the test; what is left begins and ends with something else.
-/

namespace MediaGateway.Text

/-- Decimal digits with a sign in front of them or without, and the number that they write. -/
inductive IsInteger : List Char → Int → Prop where
  /-- There is no sign. -/
  | plain {digits : List Char} {size : Nat} (numeral : IsNumeral digits size) :
    IsInteger digits size
  /-- A plus sign changes nothing. -/
  | plus {digits : List Char} {size : Nat} (numeral : IsNumeral digits size) :
    IsInteger ('+' :: digits) size
  /-- A minus sign makes the number negative. -/
  | minus {digits : List Char} {size : Nat} (numeral : IsNumeral digits size) :
    IsInteger ('-' :: digits) (-size)

/-- A number is in the range of signed ones with 64 bits. -/
def InRange64 (number : Int) : Prop := -Int.pow 2 63 ≤ number ∧ number < Int.pow 2 63

/-- Digits, at least one, are read exactly when they write a number below the bound. -/
theorem readDigits_numeral_iff {bound number : Nat} {digits : List Char} (h : 0 < bound)
    (present : digits ≠ []) :
    readDigits bound 0 digits = .ok number ↔ IsNumeral digits number ∧ number < bound := by
  rw [readDigits_ok_iff h]
  constructor
  · rintro ⟨decimal, value, small⟩
    exact ⟨⟨present, decimal, value⟩, small⟩
  · rintro ⟨numeral, small⟩
    exact ⟨numeral.decimal, numeral.value, small⟩

/-- What is made of a result is there when the result is. -/
theorem map_eq_ok_iff {ε α β : Type} {make : α → β} {result : Except ε α} {made : β} :
    result.map make = .ok made ↔ ∃ found, result = .ok found ∧ make found = made := by
  cases result with
  | error problem => simp [Except.map]
  | ok found => simp [Except.map]

/-- A natural number that is found is a whole one. -/
theorem lifted_eq_ok_iff {ε : Type} {result : Except ε Nat} {number : Int} :
    (do let found ← result; pure (found : Int)) = Except.ok number ↔
      ∃ found : Nat, result = .ok found ∧ (found : Int) = number := by
  cases result with
  | error problem => simp [bind, Except.bind]
  | ok found => simp [bind, Except.bind, pure, Except.pure]

/-- Digits begin with no minus sign. -/
theorem IsNumeral.head_ne_minus {digits : List Char} {number : Nat} (h : IsNumeral digits number)
    (rest : List Char) : digits ≠ '-' :: rest := by
  rintro rfl
  have hd := h.decimal '-' List.mem_cons_self
  exact absurd hd (by decide)

/-- A signed number is read exactly from the digits of one in range, with their sign. -/
theorem readInt64_ok_iff {chars : List Char} {number : Int} :
    readInt64 chars = .ok number ↔ IsInteger chars number ∧ InRange64 number := by
  have hp : Int.pow 2 63 = 9223372036854775808 := rfl
  have hn : Nat.pow 2 63 = 9223372036854775808 := rfl
  rw [readInt64.eq_def, InRange64, hp]
  split
  · -- A minus sign alone.
    refine iff_of_false (by nofun) ?_
    rintro ⟨writes, -⟩
    cases writes with
    | plain numeral => exact numeral.head_ne_minus [] rfl
    | minus numeral => exact numeral.present rfl
  · next digits more =>
    simp only [map_eq_ok_iff, lifted_eq_ok_iff,
      readDigits_numeral_iff (Nat.succ_pos (Nat.pow 2 63)) more]
    constructor
    · rintro ⟨_, ⟨size, ⟨numeral, small⟩, rfl⟩, rfl⟩
      exact ⟨.minus numeral, by omega⟩
    · rintro ⟨writes, fits⟩
      cases writes with
      | plain numeral => exact absurd rfl (numeral.head_ne_minus digits)
      | minus numeral => exact ⟨_, ⟨_, ⟨numeral, by omega⟩, rfl⟩, rfl⟩
  · next other =>
    simp only [map_eq_ok_iff, lifted_eq_ok_iff,
      readNatural_ok_iff (Nat.pow_pos (Nat.succ_pos 1) : 0 < Nat.pow 2 63)]
    constructor
    · rintro ⟨_, ⟨size, ⟨digits, shape, numeral, small⟩, rfl⟩, rfl⟩
      rcases shape with rfl | rfl
      · exact ⟨.plain numeral, by omega⟩
      · exact ⟨.plus numeral, by omega⟩
    · rintro ⟨writes, fits⟩
      cases writes with
      | plain numeral => exact ⟨_, ⟨_, ⟨_, .inl rfl, numeral, by omega⟩, rfl⟩, rfl⟩
      | plus numeral => exact ⟨_, ⟨_, ⟨_, .inr rfl, numeral, by omega⟩, rfl⟩, rfl⟩
      | minus numeral => exact absurd rfl (other _)

/-- Every character of a signed number is a digit or a sign. -/
theorem IsInteger.shown {digits : List Char} {number : Int} (h : IsInteger digits number) :
    ∀ char ∈ digits, char.isDigit = true ∨ char = '+' ∨ char = '-' := by
  cases h with
  | plain numeral => exact fun char member => .inl (numeral.decimal char member)
  | plus numeral =>
    exact List.forall_mem_cons.mpr ⟨.inr (.inl rfl), fun c m => .inl (numeral.decimal c m)⟩
  | minus numeral =>
    exact List.forall_mem_cons.mpr ⟨.inr (.inr rfl), fun c m => .inl (numeral.decimal c m)⟩

/-! ## Trimming -/

/-- What is dropped at both ends satisfies the test. -/
theorem exists_ends (test : Char → Bool) (chars : List Char) :
    ∃ front back, chars = front ++ (trimWhere test chars ++ back) ∧
      ∀ char ∈ front ++ back, test char = true := by
  refine ⟨chars.takeWhile test, ((chars.dropWhile test).reverse.takeWhile test).reverse, ?_, ?_⟩
  · rw [trimWhere, ← List.reverse_append, List.takeWhile_append_dropWhile, List.reverse_reverse,
      List.takeWhile_append_dropWhile]
  · intro char member
    rw [List.mem_append, List.mem_reverse] at member
    exact member.elim List.mem_takeWhile_imp List.mem_takeWhile_imp

/-- Nothing is dropped in front where nothing satisfies the test. -/
theorem dropWhile_of_none {test : Char → Bool} {chars : List Char}
    (h : ∀ char ∈ chars, test char = false) : chars.dropWhile test = chars := by
  cases chars with
  | nil => rfl
  | cons char rest =>
    exact List.dropWhile_cons_of_neg (ne_true_of_eq_false (h char List.mem_cons_self))

/-- Characters that do not satisfy the test are left when those around them are dropped. -/
theorem trimWhere_between {test : Char → Bool} {front middle back : List Char}
    (ends : ∀ char ∈ front ++ back, test char = true)
    (kept : ∀ char ∈ middle, test char = false) :
    trimWhere test (front ++ (middle ++ back)) = middle := by
  obtain ⟨hf, hb⟩ := List.forall_mem_append.mp ends
  have hr : ∀ char ∈ back.reverse, test char = true :=
    fun char member => hb char (List.mem_reverse.mp member)
  have hk : ∀ char ∈ middle.reverse, test char = false :=
    fun char member => kept char (List.mem_reverse.mp member)
  rw [trimWhere, List.dropWhile_append_of_pos hf]
  cases middle with
  | nil => rw [List.nil_append, List.dropWhile_eq_nil_iff.mpr hb]; rfl
  | cons first rest =>
    rw [List.cons_append,
      List.dropWhile_cons_of_neg (ne_true_of_eq_false (kept first List.mem_cons_self)),
      ← List.cons_append, List.reverse_append, List.dropWhile_append_of_pos hr,
      dropWhile_of_none hk, List.reverse_reverse]

end MediaGateway.Text
