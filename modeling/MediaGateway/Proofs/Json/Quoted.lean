import MediaGateway.Json.Kept
import MediaGateway.Proofs.Bytes.Hex
import MediaGateway.Proofs.Json.Grammar
import MediaGateway.Proofs.Text.Utf8

/-!
# Texts between quotes

What stands between quotes stands for characters: most of them for themselves, some
for others by an escape, and two escapes in a row may stand for one character beyond
the first 65536. A text that is written between quotes stands for itself.
-/

namespace MediaGateway.Json

/-- The octets behind the backslash of a short escape, and the characters that they stand for. -/
def shortEscapes : List (UInt8 × Char) :=
  [(0x22, '"'), (0x5C, '\\'), (0x2F, '/'), (0x62, '\x08'), (0x66, '\x0c'), (0x6E, '\n'),
    (0x72, '\r'), (0x74, '\t')]

/-- Whether octets are hexadecimal digits that write a number. -/
def IsHex (digits : List UInt8) (code : Nat) : Prop :=
  (∀ digit ∈ digits, (hexOctet? digit).isSome = true) ∧ hexOctets digits = code

/-- The characters that octets between quotes stand for. Half of a pair of escapes stands for
nothing. -/
inductive Stands : Bytes → List Char → Prop where
  /-- Nothing. -/
  | done : Stands [] []
  /-- A character stands for itself. -/
  | plain {char : Char} {rest : Bytes} {chars : List Char} (control : 0x20 ≤ char.toNat)
    (quote : char ≠ '"') (backslash : char ≠ '\\') (more : Stands rest chars) :
    Stands (String.utf8EncodeChar char ++ rest) (char :: chars)
  /-- A short escape. -/
  | short {mark : UInt8} {char : Char} {rest : Bytes} {chars : List Char}
    (known : (mark, char) ∈ shortEscapes) (more : Stands rest chars) :
    Stands (0x5C :: mark :: rest) (char :: chars)
  /-- A long escape. -/
  | long {a b c d : UInt8} {code : Nat} {rest : Bytes} {chars : List Char}
    (hex : IsHex [a, b, c, d] code) (whole : code < 0xD800 ∨ 0xE000 ≤ code)
    (more : Stands rest chars) :
    Stands (0x5C :: 0x75 :: a :: b :: c :: d :: rest) (Char.ofNat code :: chars)
  /-- Two long escapes for one character. -/
  | pair {a b c d e f g h : UInt8} {high low : Nat} {rest : Bytes} {chars : List Char}
    (hexHigh : IsHex [a, b, c, d] (0xD800 + high)) (hexLow : IsHex [e, f, g, h] (0xDC00 + low))
    (highFits : high < 0x400) (lowFits : low < 0x400) (more : Stands rest chars) :
    Stands (0x5C :: 0x75 :: a :: b :: c :: d :: 0x5C :: 0x75 :: e :: f :: g :: h :: rest)
      (Char.ofNat (0x10000 + high * 0x400 + low) :: chars)

/-- The octets of characters. -/
def octetsOf (chars : List Char) : Bytes := chars.flatMap String.utf8EncodeChar

/-- Characters behind one another have their octets behind one another. -/
theorem octetsOf_append (left right : List Char) :
    octetsOf (left ++ right) = octetsOf left ++ octetsOf right := List.flatMap_append

/-- The octets between the quotes of a text. -/
def insideOctets (chars : List Char) : Bytes :=
  (chars.flatMap escaped).flatMap String.utf8EncodeChar

/-- The octets of one character between quotes come in front of the rest. -/
theorem insideOctets_cons (char : Char) (chars : List Char) :
    insideOctets (char :: chars) =
      (escaped char).flatMap String.utf8EncodeChar ++ insideOctets chars := by
  rw [insideOctets, List.flatMap_cons, List.flatMap_append]
  rfl

/-- The octets of a character that is no control character, quote or backslash are none
either. -/
theorem utf8EncodeChar_plain {char : Char} (hc : 0x20 ≤ char.toNat) (hq : char ≠ '"')
    (hb : char ≠ '\\') :
    ∀ octet ∈ String.utf8EncodeChar char,
      ¬octet < 0x20 ∧ octet ≠ 0x22 ∧ octet ≠ 0x5C := by
  have hn : ∀ octet : UInt8, 0x20 ≤ octet.toNat → octet.toNat ≠ 0x22 → octet.toNat ≠ 0x5C →
      ¬octet < 0x20 ∧ octet ≠ 0x22 ∧ octet ≠ 0x5C := by
    intro octet hl h2 h5
    refine ⟨?_, ?_, ?_⟩
    · rw [UInt8.lt_iff_toNat_lt]
      exact Nat.not_lt.mpr hl
    · rintro rfl
      exact h2 rfl
    · rintro rfl
      exact h5 rfl
  intro octet ho
  by_cases h : char.toNat < 0x80
  · rw [Bytes.utf8EncodeChar_ascii h, List.mem_singleton] at ho
    have ht : octet.toNat = char.toNat := by
      rw [ho, UInt8.toNat_ofNat']
      omega
    refine hn octet (by omega) ?_ ?_
    · intro he
      exact hq ((Char.ofNat_toNat char).symm.trans (congrArg Char.ofNat (ht.symm.trans he)))
    · intro he
      exact hb ((Char.ofNat_toNat char).symm.trans (congrArg Char.ofNat (ht.symm.trans he)))
  · have hx := Bytes.utf8EncodeChar_beyond (Nat.not_lt.mp h) octet ho
    exact hn octet (by omega) (by omega) (by omega)

/-- A control character has its number in four digits behind a backslash, where it has no short
escape. -/
theorem exists_hex_of_control {char : Char} (hc : char.toNat < 0x20) :
    ∃ high low, IsHex [0x30, 0x30, high, low] char.toNat ∧
      ['\\', 'u', '0', '0', Bytes.hexDigit (char.toNat / 16),
        Bytes.hexDigit (char.toNat % 16)].flatMap String.utf8EncodeChar =
          [0x5C, 0x75, 0x30, 0x30, high, low] := by
  have highAscii := (Bytes.isHexDigit_hexDigit (by omega : char.toNat / 16 < 16)).lt
  have lowAscii := (Bytes.isHexDigit_hexDigit (by omega : char.toNat % 16 < 16)).lt
  have highValue := Bytes.hexValue?_hexDigit (by omega : char.toNat / 16 < 16)
  have lowValue := Bytes.hexValue?_hexDigit (by omega : char.toNat % 16 < 16)
  have hz : hexOctet? 0x30 = some 0 := rfl
  have high : hexOctet? (UInt8.ofNat (Bytes.hexDigit (char.toNat / 16)).toNat) =
      some (char.toNat / 16) := by rw [hexOctet?, Bytes.char_ofNat_octet highAscii, highValue]
  have low : hexOctet? (UInt8.ofNat (Bytes.hexDigit (char.toNat % 16)).toNat) =
      some (char.toNat % 16) := by rw [hexOctet?, Bytes.char_ofNat_octet lowAscii, lowValue]
  refine ⟨UInt8.ofNat (Bytes.hexDigit (char.toNat / 16)).toNat,
    UInt8.ofNat (Bytes.hexDigit (char.toNat % 16)).toNat, ⟨?_, ?_⟩, ?_⟩
  · intro digit member
    simp only [List.mem_cons, List.not_mem_nil, or_false] at member
    rcases member with rfl | rfl | rfl | rfl
    · rfl
    · rfl
    · rw [high, Option.isSome_some]
    · rw [low, Option.isSome_some]
  · simp only [hexOctets, List.foldl_cons, List.foldl_nil, hz, high, low, Option.getD_some]
    omega
  · simp only [List.flatMap_cons, List.flatMap_nil, Bytes.utf8EncodeChar_ascii highAscii,
      Bytes.utf8EncodeChar_ascii lowAscii]
    rfl

/-- A character between quotes is a short escape, a long one, or itself. -/
theorem escaped_cases (char : Char) :
    (∃ mark, (mark, char) ∈ shortEscapes ∧
        (escaped char).flatMap String.utf8EncodeChar = [0x5C, mark]) ∨
      (char.toNat < 0x20 ∧ ∃ high low, IsHex [0x30, 0x30, high, low] char.toNat ∧
        (escaped char).flatMap String.utf8EncodeChar = [0x5C, 0x75, 0x30, 0x30, high, low]) ∨
      (0x20 ≤ char.toNat ∧ char ≠ '"' ∧ char ≠ '\\' ∧
        (escaped char).flatMap String.utf8EncodeChar = String.utf8EncodeChar char) := by
  by_cases hq : char = '"'
  · exact .inl ⟨0x22, by rw [hq]; decide, by rw [hq]; rfl⟩
  by_cases hb : char = '\\'
  · exact .inl ⟨0x5C, by rw [hb]; decide, by rw [hb]; rfl⟩
  by_cases h8 : char = '\x08'
  · exact .inl ⟨0x62, by rw [h8]; decide, by rw [h8]; rfl⟩
  by_cases hf : char = '\x0c'
  · exact .inl ⟨0x66, by rw [hf]; decide, by rw [hf]; rfl⟩
  by_cases hn : char = '\n'
  · exact .inl ⟨0x6E, by rw [hn]; decide, by rw [hn]; rfl⟩
  by_cases hr : char = '\r'
  · exact .inl ⟨0x72, by rw [hr]; decide, by rw [hr]; rfl⟩
  by_cases ht : char = '\t'
  · exact .inl ⟨0x74, by rw [ht]; decide, by rw [ht]; rfl⟩
  rw [escaped, if_neg hq, if_neg hb, if_neg h8, if_neg hf, if_neg hn, if_neg hr, if_neg ht]
  by_cases hc : char.toNat < 0x20
  · rw [if_pos hc]
    exact .inr (.inl ⟨hc, exists_hex_of_control hc⟩)
  · rw [if_neg hc]
    exact .inr (.inr ⟨Nat.not_lt.mp hc, hq, hb, List.flatMap_singleton ..⟩)

/-- What is written between quotes for characters stands for them. -/
theorem stands_insideOctets (chars : List Char) : Stands (insideOctets chars) chars := by
  induction chars with
  | nil => exact .done
  | cons char chars ih =>
    rw [insideOctets_cons]
    rcases escaped_cases char with ⟨mark, hk, he⟩ | ⟨hc, high, low, hx, he⟩ | ⟨hc, hq, hb, he⟩
    · rw [he]
      exact .short hk ih
    · have hs : Stands ([0x5C, 0x75, 0x30, 0x30, high, low] ++ insideOctets chars)
          (Char.ofNat char.toNat :: chars) := .long hx (.inl (by omega)) ih
      rwa [he, ← Char.ofNat_toNat char]
    · rw [he]
      exact .plain hc hq hb ih

/-! ## Well-formed and read -/

/-- Octets that need no escape may stand between quotes. -/
theorem isInside_append {octets rest : Bytes}
    (h : ∀ octet ∈ octets, ¬octet < 0x20 ∧ octet ≠ 0x22 ∧ octet ≠ 0x5C) (more : IsInside rest) :
    IsInside (octets ++ rest) := by
  induction octets with
  | nil => exact more
  | cons octet octets ih =>
    obtain ⟨hc, hq, hb⟩ := h octet List.mem_cons_self
    exact .plain hc hq hb (ih fun other member => h other (List.mem_cons_of_mem _ member))

/-- The octets of short escapes are those that may follow a backslash. -/
theorem mem_escapeMarks {mark : UInt8} {char : Char} (h : (mark, char) ∈ shortEscapes) :
    mark ∈ escapeMarks := by
  have he : escapeMarks = shortEscapes.map Prod.fst := rfl
  rw [he]
  exact List.mem_map_of_mem h

/-- What stands for characters may stand between quotes. -/
theorem Stands.isInside {inside : Bytes} {chars : List Char} (h : Stands inside chars) :
    IsInside inside := by
  induction h with
  | done => exact .done
  | plain control quote backslash more ih =>
    exact isInside_append (utf8EncodeChar_plain control quote backslash) ih
  | short known more ih => exact .short (mem_escapeMarks known) ih
  | long hex whole more ih => exact .long hex.1 ih
  | pair hexHigh hexLow highFits lowFits more ih => exact .long hexHigh.1 (.long hexLow.1 ih)

/-- Octets that are no backslash stand for themselves. -/
theorem unescape_plain {octets : Bytes} (h : ∀ octet ∈ octets, octet ≠ 0x5C)
    (seen rest : Bytes) :
    unescape seen (octets ++ rest) = unescape (octets.reverse ++ seen) rest := by
  induction octets generalizing seen with
  | nil => rfl
  | cons octet octets ih =>
    have hb := h octet (List.mem_cons_self ..)
    rw [List.cons_append, unescape, ih fun other hm => h other (List.mem_cons_of_mem _ hm),
      List.reverse_cons, List.append_assoc, List.singleton_append]
    · intro _ _ _ _ _ _ _ _ _ ho
      exact absurd ho hb
    · intro _ _ _ _ _ ho
      exact absurd ho hb
    · intro _ _ ho
      exact absurd ho hb

/-- A short escape stands for the octet of its character. -/
theorem unescape_short {mark : UInt8} {char : Char} (h : (mark, char) ∈ shortEscapes)
    (seen rest : Bytes) :
    unescape seen (0x5C :: mark :: rest) =
      unescape ((String.utf8EncodeChar char).reverse ++ seen) rest := by
  have hs : mark ≠ 0x75 ∧ String.utf8EncodeChar char = [escapedOctet mark] := by
    have hall : ∀ escape ∈ shortEscapes, escape.1 ≠ 0x75 ∧
        String.utf8EncodeChar escape.2 = [escapedOctet escape.1] := by decide
    exact hall _ h
  rw [hs.2, unescape]
  · rfl
  · intro _ _ _ _ _ _ _ _ _ ho
    exact absurd ho hs.1
  · intro _ _ _ _ _ ho
    exact absurd ho hs.1

/-- A long escape of a whole character stands for it, whatever follows. -/
theorem unescape_long {a b c d : UInt8}
    (h : hexOctets [a, b, c, d] < 0xD800 ∨ 0xE000 ≤ hexOctets [a, b, c, d]) (seen rest : Bytes) :
    unescape seen (0x5C :: 0x75 :: a :: b :: c :: d :: rest) =
      unescape ((String.utf8EncodeChar (Char.ofNat (hexOctets [a, b, c, d]))).reverse ++ seen)
        rest := by
  rw [unescape.eq_def]
  split
  next he => contradiction
  next he =>
    simp only [List.cons.injEq, true_and] at he
    obtain ⟨rfl, rfl, rfl, rfl, rfl⟩ := he
    dsimp only
    rw [if_neg (by omega), if_neg (by omega)]
  next he =>
    simp only [List.cons.injEq, true_and] at he
    obtain ⟨rfl, rfl, rfl, rfl, rfl⟩ := he
    dsimp only
    rw [if_neg (by omega)]
  next hn he =>
    simp only [List.cons.injEq, true_and] at he
    exact absurd he.2.symm (hn a b c d rest he.1.symm)
  next hn _ he =>
    simp only [List.cons.injEq] at he
    exact absurd he.2.symm (hn a b c d rest he.1.symm)

/-- Two escapes that stand for one character are read as its octets. -/
theorem unescape_pair {a b c d e f g h : UInt8} {high low : Nat}
    (hexHigh : hexOctets [a, b, c, d] = 0xD800 + high)
    (hexLow : hexOctets [e, f, g, h] = 0xDC00 + low) (highFits : high < 0x400)
    (lowFits : low < 0x400) (seen rest : Bytes) :
    unescape seen
        (0x5C :: 0x75 :: a :: b :: c :: d :: 0x5C :: 0x75 :: e :: f :: g :: h :: rest) =
      unescape ((String.utf8EncodeChar (Char.ofNat (0x10000 + high * 0x400 + low))).reverse ++ seen)
        rest := by
  rw [unescape]
  simp only [hexHigh, hexLow]
  rw [if_pos (by omega), if_pos (by omega), Nat.add_sub_cancel_left, Nat.add_sub_cancel_left]

/-- What stands for characters is read as their octets. -/
theorem unescape_stands {inside : Bytes} {chars : List Char} (h : Stands inside chars)
    (seen : Bytes) : unescape seen inside = some (seen.reverse ++ octetsOf chars) := by
  induction h generalizing seen with
  | done => rw [unescape, octetsOf, List.flatMap_nil, List.append_nil]
  | plain control quote backslash more ih =>
    rw [unescape_plain fun octet ho => (utf8EncodeChar_plain control quote backslash octet ho).2.2,
      ih, octetsOf, octetsOf, List.flatMap_cons, List.reverse_append, List.reverse_reverse,
      List.append_assoc]
  | short known more ih =>
    rw [unescape_short known, ih, octetsOf, octetsOf, List.flatMap_cons, List.reverse_append,
      List.reverse_reverse, List.append_assoc]
  | long hex whole more ih =>
    rw [unescape_long (by rw [hex.2]; exact whole), ih, octetsOf, octetsOf, List.flatMap_cons,
      List.reverse_append, List.reverse_reverse, List.append_assoc, hex.2]
  | pair hexHigh hexLow highFits lowFits more ih =>
    rw [unescape_pair hexHigh.2 hexLow.2 highFits lowFits, ih, octetsOf, octetsOf,
      List.flatMap_cons, List.reverse_append, List.reverse_reverse, List.append_assoc]

/-- What stands for the characters of a text is read as the text. -/
theorem unquoted_of_stands {inside : Bytes} {text : String} (h : Stands inside text.toList) :
    unquoted? inside = some text := by
  rw [unquoted?, unescape_stands h, List.reverse_nil, List.nil_append, Option.bind_some, octetsOf,
    ← Bytes.ofText_eq_flatMap, Bytes.toText_ofText]

/-- The octets between the quotes of a text are read as the text. -/
theorem unquoted_inside (text : String) : unquoted? (insideOctets text.toList) = some text :=
  unquoted_of_stands (stands_insideOctets text.toList)

end MediaGateway.Json
