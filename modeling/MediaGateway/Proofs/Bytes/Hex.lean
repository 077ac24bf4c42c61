import MediaGateway.Bytes

/-!
# Reading back hexadecimal text

Octets are written with two lower-case digits each, and read back from them.
-/

namespace MediaGateway.Bytes

/-- A lower-case hexadecimal digit. -/
def IsHexDigit (char : Char) : Prop :=
  (48 ≤ char.toNat ∧ char.toNat ≤ 57) ∨ (97 ≤ char.toNat ∧ char.toNat ≤ 102)

/-- A digit is an ASCII character. -/
theorem IsHexDigit.lt {char : Char} (h : IsHexDigit char) : char.toNat < 0x80 := by
  rcases h with ⟨_, h⟩ | ⟨_, h⟩ <;> omega

/-- A digit is not a hyphen. -/
theorem IsHexDigit.ne_hyphen {char : Char} (h : IsHexDigit char) : char ≠ '-' := by
  rintro rfl
  exact absurd h (by rw [IsHexDigit]; decide)

/-- A number below sixteen is written as a lower-case digit. -/
theorem isHexDigit_hexDigit {value : Nat} (h : value < 16) : IsHexDigit (hexDigit value) := by
  have hall : ∀ value < 16, (48 ≤ (hexDigit value).toNat ∧ (hexDigit value).toNat ≤ 57) ∨
      (97 ≤ (hexDigit value).toNat ∧ (hexDigit value).toNat ≤ 102) := by decide
  exact hall value h

/-- A digit is read back as its number. -/
theorem hexValue?_hexDigit {value : Nat} (h : value < 16) :
    hexValue? (hexDigit value) = some value := by
  have hall : ∀ value < 16, hexValue? (hexDigit value) = some value := by decide
  exact hall value h

/-- The two halves of an octet are below sixteen. -/
theorem halves_lt (octet : UInt8) : octet.toNat / 16 < 16 ∧ octet.toNat % 16 < 16 := by
  have ho := octet.toNat_lt
  omega

/-- The digits of an octet are lower-case ones. -/
theorem isHexDigit_of_mem_hexPair {octet : UInt8} {char : Char} (h : char ∈ hexPair octet) :
    IsHexDigit char := by
  obtain ⟨hu, hl⟩ := halves_lt octet
  simp only [hexPair, List.mem_cons, List.not_mem_nil, or_false] at h
  rcases h with rfl | rfl
  · exact isHexDigit_hexDigit hu
  · exact isHexDigit_hexDigit hl

/-- The digits of octets are lower-case ones. -/
theorem isHexDigit_of_mem_hexPairs {octets : Bytes} {char : Char}
    (h : char ∈ octets.flatMap hexPair) : IsHexDigit char := by
  obtain ⟨octet, _, hc⟩ := List.mem_flatMap.mp h
  exact isHexDigit_of_mem_hexPair hc

/-- Octets are written with two digits each. -/
theorem length_hexPairs (octets : Bytes) : (octets.flatMap hexPair).length = 2 * octets.length := by
  induction octets with
  | nil => rfl
  | cons octet octets ih =>
    rw [List.flatMap_cons, List.length_append, ih, List.length_cons]
    simp only [hexPair, List.length_cons, List.length_nil]
    omega

/-- Octets are read back from their digits. -/
theorem ofHexDigits?_hexPairs (seen octets : Bytes) :
    ofHexDigits? seen (octets.flatMap hexPair) = some (seen.reverse ++ octets) := by
  induction octets generalizing seen with
  | nil => simp only [List.flatMap_nil, ofHexDigits?, List.append_nil]
  | cons octet octets ih =>
    obtain ⟨hu, hl⟩ := halves_lt octet
    have ho : octet.toNat / 16 * 16 + octet.toNat % 16 = octet.toNat := by omega
    simp only [List.flatMap_cons, hexPair, List.cons_append, List.nil_append, ofHexDigits?,
      hexValue?_hexDigit hu, hexValue?_hexDigit hl, ho, UInt8.ofNat_toNat, ih, List.reverse_cons,
      List.append_assoc]

/-- Octets are read back from their hexadecimal text. -/
theorem ofHex?_toHex (octets : Bytes) : ofHex? (toHex octets) = some octets := by
  rw [ofHex?, toHex, String.toList_ofList, ofHexDigits?_hexPairs]
  rfl

end MediaGateway.Bytes
