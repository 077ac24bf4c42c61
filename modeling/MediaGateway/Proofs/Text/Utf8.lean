import MediaGateway.Bytes

/-!
# Texts and their octets

A text is its octets in UTF-8 and nothing else: the octets are those of its
characters one after another, they read back as the text, and different texts
have different octets.
-/

namespace MediaGateway.Bytes

/-- The octets of a text are those of its characters, in order. -/
theorem ofText_eq_flatMap (text : String) :
    ofText text = text.toList.flatMap String.utf8EncodeChar := by
  have he : text.toByteArray = text.toList.utf8Encode := String.utf8Encode_toList.symm
  simp only [ofText, String.toUTF8, he, List.utf8Encode, List.data_toByteArray,
    List.toList_toArray]

/-- The octets of a list of characters. -/
theorem ofText_ofList (chars : List Char) :
    ofText (String.ofList chars) = chars.flatMap String.utf8EncodeChar := by
  rw [ofText_eq_flatMap, String.toList_ofList]

/-- The octets of a text are counted by its size. -/
theorem ofText_length (text : String) : (ofText text).length = text.utf8ByteSize := rfl

/-- The octets of a text read back as the text. -/
theorem toText_ofText (text : String) : toText? (ofText text) = some text := by
  have hv : (ByteArray.mk (ofText text).toArray).IsValidUTF8 := text.isValidUTF8
  rw [toText?, String.fromUTF8?, dif_pos hv]
  rfl

/-- Octets that read as a text are those of the text. -/
theorem ofText_of_toText {bytes : Bytes} {text : String} (h : toText? bytes = some text) :
    ofText text = bytes := by
  rw [toText?, String.fromUTF8?] at h
  split at h
  · cases h
    rfl
  · cases h

/-- Texts with the same octets are the same. -/
theorem ofText_injective {left right : String} (h : ofText left = ofText right) :
    left = right := by
  have hs : some left = some right := by
    rw [← toText_ofText left, ← toText_ofText right, h]
  exact Option.some.inj hs

/-- Only the empty text has no octets. -/
theorem ofText_eq_nil {text : String} : ofText text = [] ↔ text = "" := by
  constructor
  · intro h
    exact ofText_injective (h.trans rfl)
  · rintro rfl
    rfl

/-- The only octet of a character in ASCII. -/
theorem utf8EncodeChar_ascii {char : Char} (h : char.toNat < 0x80) :
    String.utf8EncodeChar char = [UInt8.ofNat char.toNat] := by
  have hv : char.val.toNat ≤ 0x7F := by
    have ht : char.val.toNat = char.toNat := rfl
    omega
  rw [String.utf8EncodeChar, if_pos hv]
  rfl

/-- The octet of a character in ASCII is that of the character. -/
theorem char_ofNat_octet {char : Char} (h : char.toNat < 0x80) :
    Char.ofNat (UInt8.ofNat char.toNat).toNat = char := by
  have hm : (UInt8.ofNat char.toNat).toNat = char.toNat := by
    rw [UInt8.toNat_ofNat']
    omega
  rw [hm, Char.ofNat_toNat]

/-- What holds of the octets of all numbers that fit holds of every octet. -/
theorem forall_octet {holds : UInt8 → Prop} (h : ∀ value : Fin 256, holds (UInt8.ofNat value.val))
    (octet : UInt8) : holds octet := by
  have ho := h ⟨octet.toNat, octet.toNat_lt⟩
  rwa [UInt8.ofNat_toNat] at ho

/-- The character of an octet has its number. -/
theorem toNat_char_ofNat (octet : UInt8) : (Char.ofNat octet.toNat).toNat = octet.toNat := by
  have hv : octet.toNat.isValidChar := .inl (Nat.lt_trans octet.toNat_lt (by decide))
  rw [Char.ofNat, dif_pos hv]
  rfl

/-- An octet in ASCII is that of its character. -/
theorem utf8EncodeChar_ofNat {octet : UInt8} (h : octet.toNat < 0x80) :
    String.utf8EncodeChar (Char.ofNat octet.toNat) = [octet] := by
  have hc : (Char.ofNat octet.toNat).toNat < 0x80 := by rwa [toNat_char_ofNat]
  rw [utf8EncodeChar_ascii hc, toNat_char_ofNat, UInt8.ofNat_toNat]

/-- Octets of characters beyond ASCII are beyond ASCII. -/
theorem utf8EncodeChar_beyond {char : Char} (h : 0x80 ≤ char.toNat) :
    ∀ octet ∈ String.utf8EncodeChar char, 0x80 ≤ octet.toNat := by
  have hb : ∀ value, 0x80 ≤ value → value < 0x100 → 0x80 ≤ (UInt8.ofNat value).toNat := by
    intro value hl hu
    rw [UInt8.toNat_ofNat']
    omega
  have hv : char.val.toNat = char.toNat := rfl
  intro octet ho
  rw [String.utf8EncodeChar] at ho
  split at ho
  · omega
  · split at ho
    · simp only [List.mem_cons, List.not_mem_nil, or_false] at ho
      rcases ho with rfl | rfl <;> exact hb _ (by omega) (by omega)
    · split at ho
      · simp only [List.mem_cons, List.not_mem_nil, or_false] at ho
        rcases ho with rfl | rfl | rfl <;> exact hb _ (by omega) (by omega)
      · simp only [List.mem_cons, List.not_mem_nil, or_false] at ho
        rcases ho with rfl | rfl | rfl | rfl <;> exact hb _ (by omega) (by omega)

end MediaGateway.Bytes
