import MediaGateway.Net.Address
import MediaGateway.Proofs.Settings.Value

/-!
# Reading back numbers and dotted forms

A number is read back from its decimal digits, whatever stands behind them, as long as that
does not begin with another digit. So is an address of the older kind, whose four numbers have
points between them. Where no point follows the first digits, there is no such address.
-/

namespace MediaGateway.Net

/-- Characters that do not begin with one that passes a test. -/
def StartsOutside (test : Char → Bool) (chars : List Char) : Prop :=
  ∀ char rest, chars = char :: rest → test char = false

/-- Nothing begins with no character. -/
theorem startsOutside_nil (test : Char → Bool) : StartsOutside test [] :=
  fun _ _ same => absurd same.symm (List.cons_ne_nil _ _)

/-- What begins with a character that fails the test. -/
theorem startsOutside_cons {test : Char → Bool} {char : Char} (h : test char = false)
    (rest : List Char) : StartsOutside test (char :: rest) := by
  rintro _ _ ⟨⟩
  exact h

/-- No stretch begins there. -/
theorem StartsOutside.takeWhile_eq_nil {test : Char → Bool} {chars : List Char}
    (h : StartsOutside test chars) : chars.takeWhile test = [] := by
  cases chars with
  | nil => rfl
  | cons char rest => exact List.takeWhile_cons_of_neg (ne_true_of_eq_false (h char rest rfl))

/-- Nothing is dropped there. -/
theorem StartsOutside.dropWhile_eq_self {test : Char → Bool} {chars : List Char}
    (h : StartsOutside test chars) : chars.dropWhile test = chars := by
  cases chars with
  | nil => rfl
  | cons char rest => exact List.dropWhile_cons_of_neg (ne_true_of_eq_false (h char rest rfl))

/-- A stretch in front ends there. -/
theorem StartsOutside.takeWhile_eq {test : Char → Bool} {front rest : List Char}
    (h : StartsOutside test rest) (all : ∀ char ∈ front, test char = true) :
    (front ++ rest).takeWhile test = front := by
  rw [List.takeWhile_append_of_pos all, h.takeWhile_eq_nil, List.append_nil]

/-- What follows the stretch is all that begins there. -/
theorem StartsOutside.dropWhile_eq {test : Char → Bool} {front rest : List Char}
    (h : StartsOutside test rest) (all : ∀ char ∈ front, test char = true) :
    (front ++ rest).dropWhile test = rest := by
  rw [List.dropWhile_append_of_pos all, h.dropWhile_eq_self]

/-! ## Numbers -/

/-- The decimal form of a number in characters. -/
theorem toList_toString (number : Nat) : (toString number).toList = Nat.toDigits 10 number := by
  rw [Nat.toString_eq_repr, Nat.toList_repr]

/-- A decimal form consists of digits. -/
theorem isDigit_of_mem {number : Nat} : ∀ char ∈ Nat.toDigits 10 number, char.isDigit = true :=
  fun _ member => Nat.isDigit_of_mem_toDigits (by decide) (by decide) member

/-- A number below the bound is read back from its decimal form. -/
theorem takeNumber_toDigits {bound number : Nat} {rest : List Char} (small : number < bound)
    (stop : StartsOutside Char.isDigit rest) :
    takeNumber bound (Nat.toDigits 10 number ++ rest) = some (number, rest) := by
  have hr : Text.readDigits bound 0 (Nat.toDigits 10 number) = .ok number :=
    (Text.readDigits_ok_iff (Nat.zero_lt_of_lt small)).mpr
      ⟨isDigit_of_mem, Nat.ofDigitChars_ten_toDigits, small⟩
  rw [takeNumber, stop.takeWhile_eq isDigit_of_mem, stop.dropWhile_eq isDigit_of_mem]
  simp only [if_neg Nat.toDigits_ne_nil, hr]

/-- The decimal form of an octet has three digits at most, and no zero in front of others. -/
theorem octet_digits (octet : UInt8) :
    (Nat.toDigits 10 octet.toNat).length ≤ 3 ∧
      ¬((Nat.toDigits 10 octet.toNat).head? = some '0' ∧
        1 < (Nat.toDigits 10 octet.toNat).length) := by
  have hall : ∀ number < 256, (Nat.toDigits 10 number).length ≤ 3 ∧
      ¬((Nat.toDigits 10 number).head? = some '0' ∧ 1 < (Nat.toDigits 10 number).length) := by
    decide +kernel
  exact hall octet.toNat octet.toNat_lt

/-- An octet is read back from its decimal form. -/
theorem takeOctet_toDigits {octet : UInt8} {rest : List Char}
    (stop : StartsOutside Char.isDigit rest) :
    takeOctet (Nat.toDigits 10 octet.toNat ++ rest) = some (octet, rest) := by
  obtain ⟨short, plain⟩ := octet_digits octet
  have hn : takeNumber 256 (Nat.toDigits 10 octet.toNat ++ rest) = some (octet.toNat, rest) :=
    takeNumber_toDigits octet.toNat_lt stop
  rw [takeOctet, stop.takeWhile_eq isDigit_of_mem]
  simp only [if_neg (Nat.not_lt.mpr short), if_neg plain, hn, Option.map_some, UInt8.ofNat_toNat]

/-- What is left behind a number is what follows the first digits. -/
theorem takeNumber_rest {bound number : Nat} {chars rest : List Char}
    (h : takeNumber bound chars = some (number, rest)) : rest = chars.dropWhile Char.isDigit := by
  rw [takeNumber] at h
  by_cases hd : chars.takeWhile Char.isDigit = []
  · rw [if_pos hd] at h
    cases h
  · rw [if_neg hd] at h
    cases hr : Text.readDigits bound 0 (chars.takeWhile Char.isDigit) with
    | error problem =>
      rw [hr] at h
      cases h
    | ok value =>
      rw [hr] at h
      exact (Prod.mk.inj (Option.some.inj h)).2.symm

/-- So it is behind an octet. -/
theorem takeOctet_rest {chars rest : List Char} {octet : UInt8}
    (h : takeOctet chars = some (octet, rest)) : rest = chars.dropWhile Char.isDigit := by
  rw [takeOctet, Option.ite_none_left_eq_some, Option.ite_none_left_eq_some] at h
  obtain ⟨-, -, hm⟩ := h
  obtain ⟨⟨number, left⟩, hn, he⟩ := Option.map_eq_some_iff.mp hm
  obtain ⟨-, rfl⟩ := Prod.mk.inj he
  exact takeNumber_rest hn

/-! ## Dotted forms -/

/-- A character in front is taken away. -/
theorem takeChar_cons (char : Char) (rest : List Char) : takeChar char (char :: rest) = some rest :=
  if_pos rfl

/-- A character is taken away where it is in front. -/
theorem eq_of_takeChar {char : Char} {chars rest : List Char}
    (h : takeChar char chars = some rest) : chars = char :: rest := by
  cases chars with
  | nil => cases h
  | cons first later =>
    obtain ⟨rfl, he⟩ := Option.ite_none_right_eq_some.mp h
    rw [Option.some.inj he]

/-- A point is no digit. -/
theorem startsOutside_point (rest : List Char) : StartsOutside Char.isDigit ('.' :: rest) :=
  startsOutside_cons (by decide) rest

/-- The dotted form in characters. -/
theorem Ipv4.toList_text (address : Ipv4) :
    address.text.toList = Nat.toDigits 10 address.a.toNat ++ '.' ::
      (Nat.toDigits 10 address.b.toNat ++ '.' ::
        (Nat.toDigits 10 address.c.toNat ++ '.' :: Nat.toDigits 10 address.d.toNat)) := by
  have hp : (".").toList = ['.'] := rfl
  rw [Ipv4.text, String.toList_intercalate, hp]
  simp only [Ipv4.octets, List.map_cons, List.map_nil, toList_toString,
    List.intercalate_cons_cons, List.intercalate_singleton, List.append_assoc,
    List.singleton_append]

/-- An address of the older kind is read back from its dotted form. -/
theorem takeIpv4_text (address : Ipv4) {rest : List Char}
    (stop : StartsOutside Char.isDigit rest) :
    takeIpv4 (address.text.toList ++ rest) = some (address, rest) := by
  simp only [takeIpv4, Ipv4.toList_text, List.append_assoc, List.cons_append,
    takeOctet_toDigits (startsOutside_point _), takeOctet_toDigits stop, takeChar_cons,
    Option.bind_eq_bind, Option.bind_some, Option.pure_def]

/-- There is no dotted form where no point follows the first digits. -/
theorem takeIpv4_eq_none {chars : List Char}
    (h : (chars.dropWhile Char.isDigit).head? ≠ some '.') : takeIpv4 chars = none := by
  rw [takeIpv4]
  cases ho : takeOctet chars with
  | none => rfl
  | some taken =>
    obtain ⟨octet, rest⟩ := taken
    have hr := takeOctet_rest ho
    have hc : takeChar '.' rest = none := by
      rw [← hr] at h
      cases rest with
      | nil => rfl
      | cons char rest => exact if_neg fun same => h (congrArg some same)
    simp only [Option.bind_eq_bind, Option.bind_some, hc, Option.bind_none]

end MediaGateway.Net
