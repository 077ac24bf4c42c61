import MediaGateway.Proofs.Text.Utf8
import MediaGateway.Url.Path

/-!
# Percent encoding reads back

Where the percent sign itself is reserved, with all that is beyond printable
ASCII, the octets of an encoded text decode to those of the text. So different
texts have different encoded forms, and only dots are encoded to a dot segment.
-/

namespace MediaGateway.Url

/-- A test of characters under which an encoded text reads back. -/
structure Reserving (reserved : Char → Bool) : Prop where
  /-- What cannot be printed is reserved. -/
  unprintable : ∀ char, isUnprintable char = true → reserved char = true
  /-- The sign of encoded octets is reserved. -/
  sign : reserved '%' = true

/-- What a single segment reserves is enough. -/
theorem reservedInSegment_reserving (backslash : Bool) :
    Reserving (reservedInSegment backslash) := by
  constructor
  · intro char h
    simp only [reservedInSegment, reservedInPath, reservedInFragment, h, Bool.true_or]
  · cases backslash <;> decide

/-- A capital digit reads back as its value. -/
theorem hexValue_hexCapital {value : Nat} (h : value < 16) :
    Bytes.hexValue? (hexCapital value) = some value := by
  have hall : ∀ digit : Fin 16, Bytes.hexValue? (hexCapital digit.val) = some digit.val := by decide
  exact hall ⟨value, h⟩

/-- A capital digit is in ASCII. -/
theorem hexCapital_lt {value : Nat} (h : value < 16) : (hexCapital value).toNat < 0x80 := by
  have hall : ∀ digit : Fin 16, (hexCapital digit.val).toNat < 0x80 := by decide
  exact hall ⟨value, h⟩

/-- An octet that is no percent sign stands for itself. -/
theorem percentDecode_cons {octet : UInt8} (h : octet ≠ 0x25) (rest : Bytes) :
    percentDecode (octet :: rest) = octet :: percentDecode rest := by
  rw [percentDecode]
  rintro high low rest rfl
  exact absurd rfl h

/-- The characters that stand for an octet decode to it. -/
theorem percentDecode_percentOctet (octet : UInt8) (rest : Bytes) :
    percentDecode ((percentOctet octet).flatMap String.utf8EncodeChar ++ rest) =
      octet :: percentDecode rest := by
  have hb : octet.toNat < 256 := octet.toNat_lt
  have hu : octet.toNat / 16 < 16 := by omega
  have hl : octet.toNat % 16 < 16 := by omega
  have hs : String.utf8EncodeChar '%' = [0x25] := rfl
  simp only [percentOctet, List.flatMap_cons, List.flatMap_nil, List.append_nil, hs,
    Bytes.utf8EncodeChar_ascii (hexCapital_lt hu), Bytes.utf8EncodeChar_ascii (hexCapital_lt hl),
    List.cons_append, List.nil_append]
  rw [percentDecode, Bytes.char_ofNat_octet (hexCapital_lt hu),
    Bytes.char_ofNat_octet (hexCapital_lt hl), hexValue_hexCapital hu, hexValue_hexCapital hl]
  have hv : octet.toNat / 16 * 16 + octet.toNat % 16 = octet.toNat := by omega
  simp only [hv, UInt8.ofNat_toNat]

/-- The characters that stand for octets decode to them. -/
theorem percentDecode_percentOctets (octets rest : Bytes) :
    percentDecode ((octets.flatMap percentOctet).flatMap String.utf8EncodeChar ++ rest) =
      octets ++ percentDecode rest := by
  induction octets with
  | nil => rfl
  | cons octet octets ih =>
    rw [List.flatMap_cons, List.flatMap_append, List.append_assoc, percentDecode_percentOctet, ih,
      List.cons_append]

/-- A character that is not reserved is in ASCII and no percent sign. -/
theorem Reserving.plain {reserved : Char → Bool} (hr : Reserving reserved) {char : Char}
    (h : reserved char = false) : char.toNat < 0x80 ∧ char ≠ '%' := by
  constructor
  · have hn : isUnprintable char = false := by
      cases hu : isUnprintable char with
      | false => rfl
      | true =>
        rw [hr.unprintable char hu] at h
        cases h
    simp only [isUnprintable, Bool.or_eq_false_iff, decide_eq_false_iff_not] at hn
    omega
  · rintro rfl
    rw [hr.sign] at h
    cases h

/-- The characters that stand for a character decode to its octets. -/
theorem percentDecode_percentChar {reserved : Char → Bool} (hr : Reserving reserved) (char : Char)
    (rest : Bytes) :
    percentDecode ((percentChar reserved char).flatMap String.utf8EncodeChar ++ rest) =
      String.utf8EncodeChar char ++ percentDecode rest := by
  by_cases h : reserved char = true
  · rw [percentChar, if_pos h, percentDecode_percentOctets]
  · have hp := hr.plain (Bool.eq_false_iff.mpr h)
    have hn : UInt8.ofNat char.toNat ≠ 0x25 := by
      intro he
      have hc := Bytes.char_ofNat_octet hp.1
      rw [he] at hc
      exact hp.2 hc.symm
    rw [percentChar, if_neg h, List.flatMap_singleton, Bytes.utf8EncodeChar_ascii hp.1,
      List.singleton_append, percentDecode_cons hn, List.singleton_append]

/-- An encoded text decodes to the octets of the text. -/
theorem percentDecode_percentEncode {reserved : Char → Bool} (hr : Reserving reserved)
    (chars : List Char) :
    percentDecode (Bytes.ofText (percentEncode reserved chars)) =
      Bytes.ofText (String.ofList chars) := by
  rw [percentEncode, Bytes.ofText_ofList, Bytes.ofText_ofList]
  induction chars with
  | nil => rfl
  | cons char chars ih =>
    rw [List.flatMap_cons, List.flatMap_append, percentDecode_percentChar hr, ih,
      List.flatMap_cons]

/-- Characters that are encoded alike are the same. -/
theorem percentEncode_injective {reserved : Char → Bool} (hr : Reserving reserved)
    {left right : List Char} (h : percentEncode reserved left = percentEncode reserved right) :
    left = right := by
  have ho : Bytes.ofText (String.ofList left) = Bytes.ofText (String.ofList right) := by
    rw [← percentDecode_percentEncode hr, h, percentDecode_percentEncode hr]
  exact String.ofList_injective (Bytes.ofText_injective ho)

/-- An encoded text consists of the characters of the text that are not reserved, of percent
signs and of digits. -/
theorem mem_percentEncode {reserved : Char → Bool} {chars : List Char} {char : Char}
    (h : char ∈ (percentEncode reserved chars).toList) :
    (char ∈ chars ∧ reserved char = false) ∨ char = '%' ∨
      ∃ value < 16, char = hexCapital value := by
  rw [percentEncode, String.toList_ofList, List.mem_flatMap] at h
  obtain ⟨source, hs, hc⟩ := h
  by_cases hr : reserved source = true
  · rw [percentChar, if_pos hr, List.mem_flatMap] at hc
    obtain ⟨octet, _, ho⟩ := hc
    have hb : octet.toNat < 256 := octet.toNat_lt
    simp only [percentOctet, List.mem_cons, List.not_mem_nil, or_false] at ho
    rcases ho with hp | hu | hl
    · exact .inr (.inl hp)
    · exact .inr (.inr ⟨octet.toNat / 16, by omega, hu⟩)
    · exact .inr (.inr ⟨octet.toNat % 16, by omega, hl⟩)
  · rw [percentChar, if_neg hr, List.mem_singleton] at hc
    rw [hc]
    exact .inl ⟨hs, Bool.eq_false_iff.mpr hr⟩

/-- A segment that is put in as a whole does not separate, and ends no path. -/
theorem percentEncode_inSegment {backslash : Bool} {chars : List Char} {char : Char}
    (h : char ∈ (percentEncode (reservedInSegment backslash) chars).toList) :
    char ≠ '/' ∧ (backslash = true → char ≠ '\\') ∧ inPath char = true := by
  rcases mem_percentEncode h with ⟨_, hr⟩ | rfl | ⟨value, hv, rfl⟩
  · simp only [reservedInSegment, reservedInPath, Bool.or_eq_false_iff, Bool.and_eq_false_iff,
      decide_eq_false_iff_not] at hr
    obtain ⟨⟨⟨⟨⟨⟨⟨_, hn⟩, hq⟩, _⟩, _⟩, hs⟩, _⟩, hb⟩ := hr
    refine ⟨hs, ?_, ?_⟩
    · rintro rfl
      exact hb.resolve_left (by decide)
    · simp only [inPath, ne_eq, hq, hn, not_false_eq_true, decide_true, Bool.and_self]
  · exact ⟨by decide, fun _ => by decide, by decide⟩
  · have hall : ∀ digit : Fin 16, hexCapital digit.val ≠ '/' ∧
        hexCapital digit.val ≠ '\\' ∧ inPath (hexCapital digit.val) = true := by decide
    have hd := hall ⟨value, hv⟩
    exact ⟨hd.1, fun _ => hd.2.1, hd.2.2⟩

/-- Every character is encoded to something. -/
theorem percentChar_ne_nil (reserved : Char → Bool) (char : Char) :
    percentChar reserved char ≠ [] := by
  have hl := String.length_utf8EncodeChar char
  have hp := char.utf8Size_pos
  rw [percentChar]
  split
  · cases ho : String.utf8EncodeChar char with
    | nil =>
      rw [ho, List.length_nil] at hl
      omega
    | cons octet octets =>
      rw [List.flatMap_cons, percentOctet]
      exact List.cons_ne_nil _ _
  · exact List.cons_ne_nil _ _

/-- Encoding makes no text shorter. -/
theorem length_le_percentEncode (reserved : Char → Bool) (chars : List Char) :
    chars.length ≤ (percentEncode reserved chars).length := by
  rw [percentEncode, String.length_ofList]
  induction chars with
  | nil => exact Nat.zero_le _
  | cons char chars ih =>
    have hp := List.length_pos_iff.mpr (percentChar_ne_nil reserved char)
    rw [List.flatMap_cons, List.length_append, List.length_cons]
    omega

/-- Only nothing is encoded to nothing. -/
theorem percentEncode_eq_empty {reserved : Char → Bool} {chars : List Char} :
    percentEncode reserved chars = "" ↔ chars = [] := by
  constructor
  · intro h
    cases chars with
    | nil => rfl
    | cons char chars =>
      have hl := congrArg String.toList h
      rw [percentEncode, String.toList_ofList, List.flatMap_cons] at hl
      exact absurd (List.append_eq_nil_iff.mp hl).1 (percentChar_ne_nil reserved char)
  · rintro rfl
    rfl

/-- A segment of one dot comes from one dot only. -/
theorem isDot_percentEncode {reserved : Char → Bool} (hr : Reserving reserved)
    (hd : reserved '.' = false) (chars : List Char) :
    isDot (percentEncode reserved chars) = true ↔ chars = ['.'] := by
  constructor
  · intro h
    have he := percentDecode_percentEncode hr chars
    have hb : percentDecode (Bytes.ofText (percentEncode reserved chars)) =
        Bytes.ofText (String.ofList ['.']) := by
      simp only [isDot, Bool.or_eq_true, decide_eq_true_eq] at h
      rcases h with (h | h) | h <;> rw [h] <;> decide
    exact String.ofList_injective (Bytes.ofText_injective (he.symm.trans hb))
  · rintro rfl
    simp only [percentEncode, List.flatMap_singleton, percentChar, hd, Bool.false_eq_true,
      if_false]
    decide

/-- A segment of two dots comes from two dots only. -/
theorem isDoubleDot_percentEncode {reserved : Char → Bool} (hr : Reserving reserved)
    (hd : reserved '.' = false) (chars : List Char) :
    isDoubleDot (percentEncode reserved chars) = true ↔ chars = ['.', '.'] := by
  constructor
  · intro h
    have he := percentDecode_percentEncode hr chars
    have hb : percentDecode (Bytes.ofText (percentEncode reserved chars)) =
        Bytes.ofText (String.ofList ['.', '.']) := by
      simp only [isDoubleDot, List.any_cons, List.any_nil, Bool.or_false, Bool.or_eq_true,
        decide_eq_true_eq] at h
      rcases h with (h | h | h) | (h | h | h) | h | h | h <;> rw [h] <;> decide
    exact String.ofList_injective (Bytes.ofText_injective (he.symm.trans hb))
  · rintro rfl
    simp only [percentEncode, List.flatMap_cons, List.flatMap_nil, percentChar, hd,
      Bool.false_eq_true, if_false]
    decide

end MediaGateway.Url
