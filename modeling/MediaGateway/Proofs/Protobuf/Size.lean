import MediaGateway.Proofs.Protobuf.Wire

/-!
# How many octets are written and read

The count of octets of a number in base 128 is found from its highest bit. No
reader takes a number or a key from fewer octets than the writer makes of it, so a
loop over fields is as thrifty as the merging of each of them.
-/

namespace MediaGateway.Protobuf

/-- A number below 128 takes one octet. -/
theorem writeVarint_length_of_lt {value : Nat} (h : value < 128) :
    (writeVarint value).length = 1 := by
  rw [writeVarint, if_pos h, List.length_singleton]

/-- The count of octets follows from the place of the highest bit. -/
theorem writeVarint_length (value : Nat) : (writeVarint value).length = value.log2 / 7 + 1 := by
  have hb : ∀ room, (writeVarint value).length ≤ room + 1 ↔ value.log2 / 7 + 1 ≤ room + 1 := by
    intro room
    have hp : Nat.pow 128 (room + 1) = 2 ^ (7 * (room + 1)) := (Nat.pow_mul 2 7 (room + 1)).symm
    rw [writeVarint_length_le_iff, hp]
    by_cases hz : value = 0
    · subst hz
      have hl : Nat.log2 0 = 0 := by simp
      have := Nat.two_pow_pos (7 * (room + 1))
      omega
    · rw [← Nat.log2_lt hz]
      omega
  have hp := writeVarint_length_pos value
  have h1 := (hb (value.log2 / 7)).mpr (Nat.le_refl _)
  have h2 := (hb ((writeVarint value).length - 1)).mp (by omega)
  omega

/-- The size of every number of 64 bits is the count of its octets. -/
theorem varintSize_eq {value : Nat} (hv : value < octetBound) :
    varintSize value = (writeVarint value).length := by
  have hl : value.log2 < 64 := by
    by_cases hz : value = 0
    · subst hz
      decide
    · exact (Nat.log2_lt hz).mpr hv
  have hk : ∀ place < 64, (place * 9 + 73) / 64 = place / 7 + 1 := by decide
  rw [varintSize, writeVarint_length, hk _ hl]

/-- A smaller number takes no more octets. -/
theorem writeVarint_length_mono {small large : Nat} (h : small ≤ large) :
    (writeVarint small).length ≤ (writeVarint large).length := by
  obtain ⟨room, hr⟩ := Nat.exists_eq_add_one_of_ne_zero
    (Nat.ne_of_gt (writeVarint_length_pos large))
  have hl := (writeVarint_length_le_iff room large).mp (Nat.le_of_eq hr)
  have hs := (writeVarint_length_le_iff room small).mpr (Nat.lt_of_le_of_lt h hl)
  omega

/-- Numbers below the same power of base 128 differ by one octet at most from their sum. -/
theorem writeVarint_length_add (left right : Nat) :
    (writeVarint (left + right)).length ≤
      max (writeVarint left).length (writeVarint right).length + 1 := by
  obtain ⟨room, hr⟩ := Nat.exists_eq_add_one_of_ne_zero
    (by have := writeVarint_length_pos left; omega :
      max (writeVarint left).length (writeVarint right).length ≠ 0)
  have hl := (writeVarint_length_le_iff room left).mp (by omega)
  have hs := (writeVarint_length_le_iff room right).mp (by omega)
  have hp : Nat.pow 128 (room + 1 + 1) = Nat.pow 128 (room + 1) * 128 := rfl
  have := (writeVarint_length_le_iff (room + 1) (left + right)).mpr (by omega)
  omega

/-- A key takes as many octets whatever its wire type is. -/
theorem writeKey_length (number : Nat) (wire : WireType) :
    (writeKey number wire).length = (writeVarint (number * 8)).length := by
  have hw := wire_number_lt wire
  have hd : (number * 8 + wire.number) / 128 = number * 8 / 128 := by omega
  rw [writeKey, writeVarint.eq_def, writeVarint.eq_def (number * 8), hd]
  by_cases h : number * 8 < 128
  · rw [if_pos h, if_pos (by omega), List.length_singleton, List.length_singleton]
  · rw [if_neg h, if_neg (by omega), List.length_cons, List.length_cons]

/-- A number is never read from fewer octets than it is written with. -/
theorem writeVarint_length_le_of_varintWithin {room : Nat} {bytes rest : Bytes} {value : Nat}
    (h : varintWithin room bytes = .ok (value, rest)) :
    (writeVarint value).length + rest.length ≤ bytes.length := by
  induction room generalizing bytes value with
  | zero => cases bytes <;> cases h
  | succ room ih =>
    cases bytes with
    | nil => cases h
    | cons octet bytes =>
      rw [varintWithin] at h
      split at h
      next ho =>
        split at h
        · cases h
        · cases h
          rw [writeVarint, if_pos ho, List.length_singleton, List.length_cons]
          omega
      next ho =>
        split at h
        next high after hr =>
          cases h
          have ht := ih hr
          have hd : (octet.toNat - 128 + 128 * high) / 128 = high := by
            have := octet.toNat_lt
            omega
          rw [writeVarint, hd, List.length_cons]
          split
          · rw [List.length_singleton]
            have := writeVarint_length_pos high
            omega
          · rw [List.length_cons]
            omega
        · cases h

/-- A number of a field is never read from fewer octets than it is written with. -/
theorem writeVarint_length_le_of_readVarint {bytes rest : Bytes} {value : Nat}
    (h : readVarint bytes = .ok (value, rest)) :
    (writeVarint value).length + rest.length ≤ bytes.length :=
  writeVarint_length_le_of_varintWithin h

variable {σ : Type}

/-- Octets of the key of a field. -/
def keyLength (number : Nat) : Nat := (writeVarint (number * 8)).length

/-- A key takes at least one octet. -/
theorem keyLength_pos (number : Nat) : 0 < keyLength number := writeVarint_length_pos _

/-- Merging a field adds no more to the cost of a state than twice the octets of its key and its
content. -/
def Thrifty (cost : σ → Nat) (merge : Merge σ) : Prop :=
  ∀ state number wire bytes next rest, merge state number wire bytes = .ok (next, rest) →
    cost next + 2 * rest.length ≤ cost state + 2 * bytes.length + 2 * keyLength number

/-- A key is never read from fewer octets than it is written with. -/
theorem keyLength_le_of_readKey {bytes rest : Bytes} {number : Nat} {wire : WireType}
    (h : readKey bytes = .ok (number, wire, rest)) :
    keyLength number + rest.length ≤ bytes.length := by
  rw [readKey] at h
  split at h
  · cases h
  next key after hr =>
    have hk := writeVarint_length_le_of_readVarint hr
    split at h
    · cases h
    · split at h
      · cases h
      · split at h
        · cases h
        · cases h
          have hm : (writeVarint (key / 8 * 8)).length ≤ (writeVarint key).length :=
            writeVarint_length_mono (by omega)
          rw [keyLength]
          omega

/-- The loop over fields is as thrifty as the merging of each. -/
theorem Thrifty.mergeUntil_le {cost : σ → Nat} {merge : Merge σ} (thrifty : Thrifty cost merge)
    {limit fuel : Nat} {state last : σ} {bytes rest : Bytes}
    (h : mergeUntil merge limit fuel state bytes = .ok (last, rest)) :
    cost last + 2 * rest.length ≤ cost state + 2 * bytes.length := by
  induction fuel generalizing state bytes with
  | zero =>
    cases h
    exact Nat.le_refl _
  | succ fuel ih =>
    rw [mergeUntil] at h
    split at h
    · cases h
      exact Nat.le_refl _
    · split at h
      · cases h
      next number wire content hk =>
        split at h
        · cases h
        next next after hm =>
          have hf := keyLength_le_of_readKey hk
          have hs := thrifty _ _ _ _ _ _ hm
          have ht := ih h
          omega

/-- All the fields of octets cost twice the octets at most. -/
theorem Thrifty.mergeAll_le {cost : σ → Nat} {merge : Merge σ} (thrifty : Thrifty cost merge)
    {state last : σ} {bytes : Bytes} (h : mergeAll merge state bytes = .ok last) :
    cost last ≤ cost state + 2 * bytes.length := by
  rw [mergeAll] at h
  cases hm : mergeUntil merge 0 (bytes.length + 1) state bytes with
  | error error =>
    rw [hm] at h
    cases h
  | ok found =>
    obtain ⟨found, rest⟩ := found
    rw [hm] at h
    cases h
    have hu := thrifty.mergeUntil_le hm
    dsimp only
    omega

/-- The fields behind a length cost twice the length at most, and the length is not read from
fewer octets than it is written with. -/
theorem Thrifty.mergeDelimited_le {cost : σ → Nat} {merge : Merge σ} (thrifty : Thrifty cost merge)
    {state last : σ} {bytes rest : Bytes}
    (h : mergeDelimited merge state bytes = .ok (last, rest)) :
    ∃ length, cost last ≤ cost state + 2 * length ∧
      (writeVarint length).length + length + rest.length ≤ bytes.length := by
  rw [mergeDelimited] at h
  split at h
  · cases h
  next length content hr =>
    split at h
    · cases h
    · dsimp only at h
      split at h
      · cases h
      next merged after hm =>
        split at h
        next he =>
          cases h
          have hu := thrifty.mergeUntil_le hm
          have hv := writeVarint_length_le_of_readVarint hr
          exact ⟨length, by omega, by omega⟩
        · cases h

/-- A group is passed over without a gain. -/
theorem length_le_of_skipGroup {pass : Nat → WireType → Bytes → Except DecodeError Bytes}
    (hp : ∀ number wire bytes rest, pass number wire bytes = .ok rest →
      rest.length ≤ bytes.length) {number fuel : Nat} {bytes rest : Bytes}
    (h : skipGroup pass number fuel bytes = .ok rest) : rest.length ≤ bytes.length := by
  induction fuel generalizing bytes with
  | zero => cases h
  | succ fuel ih =>
    rw [skipGroup] at h
    split at h
    · cases h
    next inner wire content hk =>
      have hf := keyLength_le_of_readKey hk
      split at h
      · split at h
        · cases h
          omega
        · cases h
      · split at h
        · cases h
        next after hs =>
          have hl := hp _ _ _ _ hs
          have ht := ih h
          omega

/-- Octets are split without a gain. -/
theorem length_of_splitExact {count : Nat} {bytes front rest : Bytes}
    (h : bytes.splitExact? count = some (front, rest)) :
    front.length = count ∧ front.length + rest.length = bytes.length := by
  rw [Bytes.splitExact?] at h
  split at h
  next hl =>
    cases h
    refine ⟨hl, ?_⟩
    rw [← List.length_append, List.take_append_drop]
  · cases h

/-- Octets behind a length are read together with it. -/
theorem length_le_of_readDelimited {bytes content rest : Bytes}
    (h : readDelimited bytes = .ok (content, rest)) :
    (writeDelimited content).length + rest.length ≤ bytes.length := by
  rw [readDelimited] at h
  split at h
  · cases h
  next length after hr =>
    have hv := writeVarint_length_le_of_readVarint hr
    split at h
    next split hs =>
      cases h
      obtain ⟨hc, hl⟩ := length_of_splitExact hs
      rw [writeDelimited, List.length_append, hc]
      omega
    · cases h

/-- Octets are dropped without a gain. -/
theorem length_le_of_dropExact {count : Nat} {bytes rest : Bytes}
    (h : dropExact count bytes = .ok rest) : rest.length ≤ bytes.length := by
  rw [dropExact] at h
  split at h
  next front after hs =>
    cases h
    have hl := length_of_splitExact hs
    omega
  · cases h

/-- A field is passed over without a gain. -/
theorem length_le_of_skipField {depth number : Nat} {wire : WireType} {bytes rest : Bytes}
    (h : skipField depth number wire bytes = .ok rest) : rest.length ≤ bytes.length := by
  induction depth generalizing number wire bytes rest with
  | zero => cases h
  | succ depth ih =>
    cases wire with
    | varint =>
      rw [skipField] at h
      cases hr : readVarint bytes with
      | error error =>
        rw [hr] at h
        cases h
      | ok found =>
        obtain ⟨value, after⟩ := found
        rw [hr] at h
        cases h
        have hv := writeVarint_length_le_of_readVarint hr
        dsimp only
        omega
    | thirtyTwoBit => exact length_le_of_dropExact h
    | sixtyFourBit => exact length_le_of_dropExact h
    | lengthDelimited =>
      rw [skipField] at h
      cases hr : readDelimited bytes with
      | error error =>
        rw [hr] at h
        cases h
      | ok found =>
        obtain ⟨content, after⟩ := found
        rw [hr] at h
        cases h
        have hv := length_le_of_readDelimited hr
        dsimp only
        omega
    | startGroup =>
      exact length_le_of_skipGroup (fun _ _ _ _ hs => ih hs) h
    | endGroup => cases h

end MediaGateway.Protobuf
