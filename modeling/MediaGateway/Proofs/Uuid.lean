import MediaGateway.Proofs.Bytes.Hex
import MediaGateway.Proofs.Text.Utf8
import MediaGateway.Uuid

/-!
# Identifiers of version 4

An identifier has its version and its variant at fixed places, six bits in all, and
every other bit is the random one: its digits read back as octets that agree with the
random ones in 122 bits.
-/

namespace MediaGateway.Uuid

/-- The octets whose bits identifiers have in common, and these bits: four for the version and two
for the variant. -/
def fixedBits : List (Nat × Nat) := [(6, 4), (6, 5), (6, 6), (6, 7), (8, 6), (8, 7)]

/-- Those of them that are set: the version is four, and the variant begins with a one. -/
def setBits : List (Nat × Nat) := [(6, 6), (8, 7)]

/-- A bit of an octet, the least one first; beyond the octets there is none that is set. -/
def bit (octets : Bytes) (place number : Nat) : Bool := (octets.getD place 0).toNat.testBit number

/-- As many octets, with the same bits except for the fixed ones. -/
structure Agree (left right : Bytes) : Prop where
  /-- There are as many of them. -/
  length : left.length = right.length
  /-- Their other bits are the same. -/
  bits : ∀ place number, (place, number) ∉ fixedBits →
    bit left place number = bit right place number

/-- Octets agree with any that agree with the same ones. -/
theorem Agree.trans {left middle right : Bytes} (h : Agree left middle) (g : Agree middle right) :
    Agree left right :=
  ⟨h.length.trans g.length, fun place number free =>
    (h.bits place number free).trans (g.bits place number free)⟩

/-- Octets that agree do so both ways. -/
theorem Agree.symm {left right : Bytes} (h : Agree left right) : Agree right left :=
  ⟨h.length.symm, fun place number free => (h.bits place number free).symm⟩

/-- What the octet at a place becomes. -/
def stampOctet (place : Nat) (octet : UInt8) : UInt8 :=
  if place = 6 then (octet &&& 0x0F) ||| 0x40
  else if place = 8 then (octet &&& 0x3F) ||| 0x80
  else octet

/-- Each octet is stamped for its place. -/
theorem getElem?_stamp (random : Bytes) (place : Nat) :
    (stamp random)[place]? = random[place]?.map (stampOctet place) := by
  rw [stamp, List.getElem?_map, List.getElem?_zipIdx, Option.map_map]
  refine congrArg (Option.map · random[place]?) (funext fun octet => ?_)
  simp only [Function.comp, Nat.zero_add, stampOctet]

/-- As many octets are left. -/
theorem length_stamp (random : Bytes) : (stamp random).length = random.length := by
  rw [stamp, List.length_map, List.length_zipIdx]

/-- A bit beyond the eighth is not set. -/
theorem testBit_octet (octet : UInt8) {number : Nat} (h : 8 ≤ number) :
    octet.toNat.testBit number = false :=
  Nat.testBit_lt_two_pow (Nat.lt_of_lt_of_le octet.toNat_lt (Nat.pow_le_pow_right (by decide) h))

/-- The fixed bits of a stamped octet are those of the version and the variant, and its others are
what they were. -/
theorem testBit_stampOctet (place number : Nat) (octet : UInt8) :
    (stampOctet place octet).toNat.testBit number =
      if (place, number) ∈ fixedBits then decide ((place, number) ∈ setBits)
      else octet.toNat.testBit number := by
  have hn : ∀ place, 8 ≤ number → (place, number) ∉ fixedBits := by
    intro place large member
    simp only [fixedBits, List.mem_cons, Prod.mk.injEq, List.not_mem_nil, or_false] at member
    omega
  by_cases large : 8 ≤ number
  · rw [testBit_octet _ large, if_neg (hn place large), testBit_octet _ large]
  · have stamped : ∀ octet : UInt8, ∀ number < 8,
        (stampOctet 6 octet).toNat.testBit number =
            (if (6, number) ∈ fixedBits then decide ((6, number) ∈ setBits)
              else octet.toNat.testBit number) ∧
          (stampOctet 8 octet).toNat.testBit number =
            (if (8, number) ∈ fixedBits then decide ((8, number) ∈ setBits)
              else octet.toNat.testBit number) := Bytes.forall_octet (by decide +kernel)
    have ho := stamped octet number (by omega)
    by_cases h6 : place = 6
    · rw [h6]
      exact ho.1
    · by_cases h8 : place = 8
      · rw [h8]
        exact ho.2
      · have hf : (place, number) ∉ fixedBits := by
          simp only [fixedBits, List.mem_cons, Prod.mk.injEq, List.not_mem_nil, or_false]
          omega
        rw [stampOctet, if_neg h6, if_neg h8, if_neg hf]

/-- The bits of a stamped sequence of sixteen octets. -/
theorem bit_stamp {random : Bytes} (full : random.length = 16) (place number : Nat) :
    bit (stamp random) place number =
      if (place, number) ∈ fixedBits then decide ((place, number) ∈ setBits)
      else bit random place number := by
  have hg : ∀ octets : Bytes, octets.getD place 0 = octets[place]?.getD 0 := fun octets =>
    List.getD_eq_getElem?_getD
  rw [bit, bit, hg, hg, getElem?_stamp]
  cases h : random[place]? with
  | some octet => exact testBit_stampOctet place number octet
  | none =>
    -- There are sixteen octets, so no fixed bit is beyond them.
    have hl := List.getElem?_eq_none_iff.mp h
    have hf : (place, number) ∉ fixedBits := by
      simp only [fixedBits, List.mem_cons, Prod.mk.injEq, List.not_mem_nil, or_false]
      omega
    rw [if_neg hf]
    rfl

/-- Stamped octets agree with what they were made from. -/
theorem agree_stamp {random : Bytes} (full : random.length = 16) : Agree (stamp random) random :=
  ⟨length_stamp random, fun place number free => by rw [bit_stamp full, if_neg free]⟩

/-- The digits of an identifier, with hyphens between the groups. -/
theorem toList_grouped (octets : Bytes) :
    (grouped octets).toList =
      (octets.take 4).flatMap Bytes.hexPair ++ '-' ::
        (((octets.drop 4).take 2).flatMap Bytes.hexPair ++ '-' ::
          (((octets.drop 6).take 2).flatMap Bytes.hexPair ++ '-' ::
            (((octets.drop 8).take 2).flatMap Bytes.hexPair ++ '-' ::
              ((octets.drop 10).take 6).flatMap Bytes.hexPair))) := by
  have hh : "-".toList = ['-'] := rfl
  simp only [grouped, String.toList_intercalate, Bytes.toHex, List.map_cons, List.map_nil,
    String.toList_ofList, hh, List.intercalate, List.intersperse, List.flatten_cons,
    List.flatten_nil, List.append_nil, List.cons_append, List.nil_append, List.drop_zero]

/-- The text of a version 4 identifier: groups of 8, 4, 4, 4 and 12 lower-case digits with hyphens
between them, the third of which begins with the version and the fourth with the variant. -/
def IsVersion4 (text : String) : Prop :=
  ∃ (first second third fourth fifth : List Char) (variant : Char),
    text.toList = first ++ '-' :: (second ++ '-' :: ('4' :: third ++ '-' ::
      (variant :: fourth ++ '-' :: fifth))) ∧
    first.length = 8 ∧ second.length = 4 ∧ third.length = 3 ∧ fourth.length = 3 ∧
    fifth.length = 12 ∧ variant ∈ ['8', '9', 'a', 'b'] ∧
    ∀ char ∈ first ++ second ++ third ++ fourth ++ fifth, Bytes.IsHexDigit char

/-- A version 4 identifier has 36 characters. -/
theorem IsVersion4.length {text : String} (h : IsVersion4 text) : text.toList.length = 36 := by
  obtain ⟨first, second, third, fourth, fifth, variant, ht, h1, h2, h3, h4, h5, _, _⟩ := h
  simp only [ht, List.length_append, List.length_cons, h1, h2, h3, h4, h5]

/-- The digits of the octet with the version. -/
theorem hexPair_version (octet : UInt8) :
    Bytes.hexPair (stampOctet 6 octet) = ['4', Bytes.hexDigit (octet.toNat % 16)] := by
  revert octet
  exact Bytes.forall_octet (by decide +kernel)

/-- The first digit of the octet with the variant. -/
theorem hexDigit_variant (octet : UInt8) :
    Bytes.hexDigit ((stampOctet 8 octet).toNat / 16) ∈ ['8', '9', 'a', 'b'] := by
  revert octet
  exact Bytes.forall_octet (by decide +kernel)

/-- An octet that is there is the first of those from its place on. -/
theorem drop_stamp {random : Bytes} {place : Nat} (h : place < random.length) :
    (stamp random).drop place =
      stampOctet place random[place] :: (stamp random).drop (place + 1) := by
  have hl : place < (stamp random).length := by rwa [length_stamp]
  have he : (stamp random)[place] = stampOctet place random[place] := by
    have hs := getElem?_stamp random place
    rwa [List.getElem?_eq_getElem hl, List.getElem?_eq_getElem h, Option.map_some,
      Option.some.injEq] at hs
  rw [List.drop_eq_getElem_cons hl, he]

/-- An identifier is one of version 4. -/
theorem isVersion4_ofRandom {random : Bytes} (full : random.length = 16) :
    IsVersion4 (ofRandom random) := by
  have hl := length_stamp random
  have version := drop_stamp (by omega : 6 < random.length)
  have variant := drop_stamp (by omega : 8 < random.length)
  have third : ((stamp random).drop 6).take 2 =
      stampOctet 6 random[6] :: ((stamp random).drop 7).take 1 := by rw [version]; rfl
  have fourth : ((stamp random).drop 8).take 2 =
      stampOctet 8 random[8] :: ((stamp random).drop 9).take 1 := by rw [variant]; rfl
  have digits : ∀ (octets : Bytes), ∀ char ∈ octets.flatMap Bytes.hexPair, Bytes.IsHexDigit char :=
    fun octets char => Bytes.isHexDigit_of_mem_hexPairs
  have hd := Bytes.isHexDigit_hexDigit (Bytes.halves_lt random[6]).2
  have hv := Bytes.isHexDigit_hexDigit (Bytes.halves_lt (stampOctet 8 random[8])).2
  refine ⟨((stamp random).take 4).flatMap Bytes.hexPair,
    (((stamp random).drop 4).take 2).flatMap Bytes.hexPair,
    Bytes.hexDigit (random[6].toNat % 16) :: (((stamp random).drop 7).take 1).flatMap Bytes.hexPair,
    Bytes.hexDigit ((stampOctet 8 random[8]).toNat % 16) ::
      (((stamp random).drop 9).take 1).flatMap Bytes.hexPair,
    (((stamp random).drop 10).take 6).flatMap Bytes.hexPair,
    Bytes.hexDigit ((stampOctet 8 random[8]).toNat / 16), ?_, ?_, ?_, ?_, ?_, ?_,
    hexDigit_variant random[8], ?_⟩
  · rw [ofRandom, toList_grouped, third, fourth, List.flatMap_cons, List.flatMap_cons,
      hexPair_version]
    rfl
  · simp only [Bytes.length_hexPairs, List.length_take]
    omega
  · simp only [Bytes.length_hexPairs, List.length_take, List.length_drop]
    omega
  · simp only [List.length_cons, Bytes.length_hexPairs, List.length_take, List.length_drop]
    omega
  · simp only [List.length_cons, Bytes.length_hexPairs, List.length_take, List.length_drop]
    omega
  · simp only [Bytes.length_hexPairs, List.length_take, List.length_drop]
    omega
  · simp only [List.forall_mem_append, List.forall_mem_cons]
    exact ⟨⟨⟨⟨digits _, digits _⟩, hd, digits _⟩, hv, digits _⟩, digits _⟩

/-- The octets that the digits of a text stand for. -/
def octets? (text : String) : Option Bytes :=
  Bytes.ofHexDigits? [] (text.toList.filter (· ≠ '-'))

/-- The digits of an identifier are those of its octets. -/
theorem octets?_grouped {octets : Bytes} (full : octets.length = 16) :
    octets? (grouped octets) = some octets := by
  have digits : ∀ octets : Bytes, (octets.flatMap Bytes.hexPair).filter (· ≠ '-') =
      octets.flatMap Bytes.hexPair := fun octets => List.filter_eq_self.mpr fun char member =>
    decide_eq_true (Bytes.isHexDigit_of_mem_hexPairs member).ne_hyphen
  have joined : octets.take 4 ++ ((octets.drop 4).take 2 ++ ((octets.drop 6).take 2 ++
      ((octets.drop 8).take 2 ++ (octets.drop 10).take 6))) = octets := by
    have hl : (octets.drop 10).length ≤ 6 := by rw [List.length_drop]; omega
    have hd : ∀ start, octets.drop (start + 2) = (octets.drop start).drop 2 := fun start => by
      rw [List.drop_drop]
    rw [List.take_of_length_le hl, hd 8, List.take_append_drop, hd 6, List.take_append_drop, hd 4,
      List.take_append_drop, List.take_append_drop]
  have hh : ∀ rest : List Char, ('-' :: rest).filter (· ≠ '-') = rest.filter (· ≠ '-') :=
    fun rest => List.filter_cons_of_neg (by decide)
  simp only [octets?, toList_grouped, List.filter_append, hh, digits, ← List.flatMap_append, joined]
  rw [Bytes.ofHexDigits?_hexPairs]
  rfl

/-- The digits of an identifier stand for octets that agree with the random ones. -/
theorem octets?_ofRandom {random : Bytes} (full : random.length = 16) :
    octets? (ofRandom random) = some (stamp random) :=
  octets?_grouped ((length_stamp random).trans full)

end MediaGateway.Uuid
