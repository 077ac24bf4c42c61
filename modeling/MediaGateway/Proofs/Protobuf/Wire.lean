import MediaGateway.Protobuf.Wire

/-!
# Reading back what is written on the wire

A number in base 128, a key and a delimited stretch of octets read back as what
was written, whatever follows them. Octets that consist of whole fields merge
one field after another, and neither the fuel of the loop nor the octets behind
them matter.
-/

namespace MediaGateway.Protobuf

/-- Octets in an encoding are counted in 64 bits. -/
def octetBound : Nat := Nat.pow 2 64

/-- The first number that is no field number. -/
def numberBound : Nat := Nat.pow 2 29

/-- A number in base 128 reads back within as many octets as its size allows. -/
theorem varintWithin_writeVarint (room value : Nat) (rest : Bytes)
    (hv : value < 2 * Nat.pow 128 room) :
    varintWithin (room + 1) (writeVarint value ++ rest) = .ok (value, rest) := by
  induction room generalizing value with
  | zero =>
    have hs : value < 2 := hv
    have hb : (UInt8.ofNat value).toNat = value := by
      rw [UInt8.toNat_ofNat']
      omega
    rw [writeVarint, if_pos (by omega)]
    simp only [List.cons_append, List.nil_append, varintWithin, hb]
    rw [if_pos (by omega), if_neg (by omega)]
  | succ room ih =>
    rw [writeVarint]
    split
    · rename_i hs
      have hb : (UInt8.ofNat value).toNat = value := by
        rw [UInt8.toNat_ofNat']
        omega
      simp only [List.cons_append, List.nil_append, varintWithin, hb]
      rw [if_pos hs, if_neg (by omega)]
    · rename_i hs
      have hb : (UInt8.ofNat (value % 128 + 128)).toNat = value % 128 + 128 := by
        rw [UInt8.toNat_ofNat']
        omega
      have hp : Nat.pow 128 (room + 1) = Nat.pow 128 room * 128 := rfl
      have hh : value / 128 < 2 * Nat.pow 128 room := by omega
      have he : value % 128 + 128 - 128 + 128 * (value / 128) = value := by omega
      simp only [List.cons_append, varintWithin, hb, ih _ hh]
      rw [if_neg (by omega), he]

/-- Every number of 64 bits reads back from its ten octets at most. -/
theorem readVarint_writeVarint {value : Nat} (hv : value < octetBound) (rest : Bytes) :
    readVarint (writeVarint value ++ rest) = .ok (value, rest) :=
  varintWithin_writeVarint 9 value rest hv

/-- A number takes at least one octet. -/
theorem writeVarint_length_pos (value : Nat) : 0 < (writeVarint value).length := by
  rw [writeVarint]
  split <;> simp only [List.length_cons, Nat.zero_lt_succ]

/-- A number takes so many octets exactly when as many digits in base 128 hold it. -/
theorem writeVarint_length_le_iff (room value : Nat) :
    (writeVarint value).length ≤ room + 1 ↔ value < Nat.pow 128 (room + 1) := by
  induction room generalizing value with
  | zero =>
    have hp : Nat.pow 128 (0 + 1) = 128 := rfl
    rw [writeVarint]
    split
    · rw [List.length_singleton]
      omega
    · have ht := writeVarint_length_pos (value / 128)
      rw [List.length_cons]
      omega
  | succ room ih =>
    have hp : Nat.pow 128 (room + 1 + 1) = Nat.pow 128 (room + 1) * 128 := rfl
    have hq : 0 < Nat.pow 128 (room + 1) := Nat.pow_pos (by decide)
    rw [writeVarint]
    split
    · rw [List.length_singleton]
      omega
    · have ht := ih (value / 128)
      rw [List.length_cons]
      omega

/-- Every number of 64 bits takes ten octets at most. -/
theorem writeVarint_length_le {value : Nat} (hv : value < octetBound) :
    (writeVarint value).length ≤ 10 :=
  (writeVarint_length_le_iff 9 value).mpr (Nat.lt_trans hv (by decide))

/-- The number of a wire type leads back to it. -/
theorem ofNumber_number (wire : WireType) : WireType.ofNumber? wire.number = some wire := by
  cases wire <;> rfl

/-- The wire types are numbered below eight. -/
theorem wire_number_lt (wire : WireType) : wire.number < 8 := by
  cases wire <;> decide

/-- A key reads back as the field's number and its wire type. -/
theorem readKey_writeKey {number : Nat} (hp : 0 < number) (hn : number < numberBound)
    (wire : WireType) (rest : Bytes) :
    readKey (writeKey number wire ++ rest) = .ok (number, wire, rest) := by
  have hw := wire_number_lt wire
  have hb : numberBound = 536870912 := rfl
  have hk : number * 8 + wire.number < Nat.pow 2 32 := by
    have he : Nat.pow 2 32 = 4294967296 := rfl
    omega
  have hr : readVarint (writeKey number wire ++ rest) = .ok (number * 8 + wire.number, rest) :=
    readVarint_writeVarint (Nat.lt_trans hk (by decide)) rest
  have hm : (number * 8 + wire.number) % 8 = wire.number := by omega
  have hd : (number * 8 + wire.number) / 8 = number := by omega
  simp only [readKey, hr, hm, hd, ofNumber_number]
  rw [if_neg (Nat.not_le.mpr hk), if_neg (by omega)]

/-- A key takes at least one octet. -/
theorem writeKey_length_pos (number : Nat) (wire : WireType) :
    0 < (writeKey number wire).length :=
  writeVarint_length_pos _

/-- Octets are taken off the front in full. -/
theorem splitExact_append (front rest : Bytes) :
    (front ++ rest).splitExact? front.length = some (front, rest) := by
  simp only [Bytes.splitExact?, List.take_left', List.drop_left', if_true]

/-- A delimited stretch of octets reads back. -/
theorem readDelimited_writeDelimited {content : Bytes} (hl : content.length < octetBound)
    (rest : Bytes) : readDelimited (writeDelimited content ++ rest) = .ok (content, rest) := by
  simp only [readDelimited, writeDelimited, List.append_assoc, readVarint_writeVarint hl,
    splitExact_append]

/-- Octets made of whole fields take one state to another, whatever follows them. -/
inductive Merged {σ : Type} (merge : Merge σ) : σ → Bytes → σ → Prop where
  /-- No field leaves the state as it is. -/
  | done (state : σ) : Merged merge state [] state
  /-- A field is merged, and then those behind it. -/
  | field {state next last : σ} {number : Nat} {wire : WireType} {content tail : Bytes}
      (hp : 0 < number) (hn : number < numberBound)
      (hread : ∀ rest, merge state number wire (content ++ rest) = .ok (next, rest))
      (later : Merged merge next tail last) :
      Merged merge state (writeKey number wire ++ content ++ tail) last

namespace Merged

variable {σ : Type} {merge : Merge σ} {state next last : σ} {bytes tail : Bytes}

/-- Fields behind fields are fields. -/
theorem append (former : Merged merge state bytes next) (latter : Merged merge next tail last) :
    Merged merge state (bytes ++ tail) last := by
  induction former with
  | done state => simpa only [List.nil_append] using latter
  | field hp hn hread later ih =>
    rw [List.append_assoc]
    exact .field hp hn hread (ih latter)

/-- The loop over whole fields stops where they end, with any fuel that exceeds their octets. -/
theorem mergeUntil_eq (merged : Merged merge state bytes last) (rest : Bytes) {fuel : Nat}
    (hf : bytes.length < fuel) :
    mergeUntil merge rest.length fuel state (bytes ++ rest) = .ok (last, rest) := by
  induction merged generalizing fuel with
  | done state =>
    obtain ⟨fuel, rfl⟩ := Nat.exists_eq_succ_of_ne_zero (Nat.ne_of_gt hf)
    simp only [mergeUntil, List.nil_append, Nat.le_refl, if_true]
  | @field state next last number wire content tail hp hn hread later ih =>
    have hk := writeKey_length_pos number wire
    simp only [List.length_append] at hf
    obtain ⟨fuel, rfl⟩ := Nat.exists_eq_succ_of_ne_zero (by omega : fuel ≠ 0)
    have hl : ¬(writeKey number wire ++ content ++ tail ++ rest).length ≤ rest.length := by
      simp only [List.length_append]
      omega
    have hc : readKey (writeKey number wire ++ content ++ tail ++ rest) =
        .ok (number, wire, content ++ (tail ++ rest)) := by
      simp only [List.append_assoc, readKey_writeKey hp hn]
    simp only [mergeUntil, if_neg hl, hc, hread]
    exact ih (by omega)

/-- Whole fields merge in full. -/
theorem mergeAll_eq (merged : Merged merge state bytes last) :
    mergeAll merge state bytes = .ok last := by
  have hm := mergeUntil_eq merged [] (Nat.lt_succ_self bytes.length)
  simp only [List.append_nil, List.length_nil] at hm
  simp only [mergeAll, hm, Except.map]

/-- Whole fields behind their length merge in full, and what follows is left alone. -/
theorem mergeDelimited_eq (merged : Merged merge state bytes last)
    (hl : bytes.length < octetBound) (rest : Bytes) :
    mergeDelimited merge state (writeDelimited bytes ++ rest) = .ok (last, rest) := by
  have hlimit : (bytes ++ rest).length - bytes.length = rest.length := by
    simp only [List.length_append]
    omega
  have hfull : ¬(bytes ++ rest).length < bytes.length := by
    simp only [List.length_append]
    omega
  have hm := mergeUntil_eq merged rest
    (by simp only [List.length_append]; omega : bytes.length < (bytes ++ rest).length + 1)
  simp only [mergeDelimited, writeDelimited, List.append_assoc, readVarint_writeVarint hl,
    if_neg hfull, hlimit, hm, if_true]

end Merged

end MediaGateway.Protobuf
