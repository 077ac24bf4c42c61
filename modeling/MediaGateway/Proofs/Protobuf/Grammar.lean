import MediaGateway.Proofs.Protobuf.Size

/-!
# Which octets are read

Numbers, keys, delimited stretches and whole fields have a grammar that says nothing
of readers. A number need not be the shortest, a stretch is as long as the number in
front of it says, and a group goes on to the key that ends it, with fields inside it
that are well formed themselves. Each reader takes exactly the octets of its grammar
off the front, and leaves the others alone.
-/

namespace MediaGateway.Protobuf

/-- A number in base 128, seven bits an octet, the low ones first; every octet but the last has its
high bit set. -/
inductive Numeral : Bytes → Nat → Prop where
  /-- The last octet. -/
  | last {octet : UInt8} (low : octet.toNat < 128) : Numeral [octet] octet.toNat
  /-- An octet with more behind it. -/
  | more {octet : UInt8} {rest : Bytes} {high : Nat} (marked : 128 ≤ octet.toNat)
    (later : Numeral rest high) : Numeral (octet :: rest) (octet.toNat - 128 + 128 * high)

/-- Octets that hold a number of 64 bits: ten at most, whether or not fewer would do. -/
structure IsNumber (bytes : Bytes) (value : Nat) : Prop where
  /-- The octets are a number in base 128. -/
  numeral : Numeral bytes value
  /-- There are ten at most. -/
  short : bytes.length ≤ 10
  /-- The number has 64 bits. -/
  bounded : value < octetBound

/-- Octets that are the key of a field. -/
structure IsKey (bytes : Bytes) (number : Nat) (wire : WireType) : Prop where
  /-- They hold the field's number above the wire type. -/
  holds : IsNumber bytes (number * 8 + wire.number)
  /-- Zero is no number of a field. -/
  positive : 0 < number
  /-- The number of a field has 29 bits. -/
  bounded : number < numberBound

/-- Octets that are a length and as many octets behind it. -/
def IsStretch (bytes content : Bytes) : Prop :=
  ∃ front, IsNumber front content.length ∧ bytes = front ++ content

/-- The inside of a group with its end: fields, each of which is whole, and the key that ends the
group with its number. -/
inductive Enclosed (whole : Nat → WireType → Bytes → Prop) (number : Nat) : Bytes → Prop where
  /-- The end of the group. -/
  | ends {key : Bytes} (isKey : IsKey key number .endGroup) : Enclosed whole number key
  /-- A field with more behind it. -/
  | field {key content tail : Bytes} {inner : Nat} {wire : WireType} (isKey : IsKey key inner wire)
    (goesOn : wire ≠ .endGroup) (isWhole : whole inner wire content)
    (later : Enclosed whole number tail) : Enclosed whole number (key ++ content ++ tail)

/-- What stands behind the key of a whole field, where groups may be nested to a depth. -/
def WellFormed : (depth : Nat) → Nat → WireType → Bytes → Prop
  | 0, _, _, _ => False
  | depth + 1, number, wire, content =>
    match wire with
    | .varint => ∃ value, IsNumber content value
    | .thirtyTwoBit => content.length = 4
    | .sixtyFourBit => content.length = 8
    | .lengthDelimited => ∃ inner, IsStretch content inner
    | .startGroup => Enclosed (WellFormed depth) number content
    | .endGroup => False

/-- A reader that takes exactly the octets of a grammar off the front. -/
def Accepts {α : Type} (reader : Bytes → Reading α) (grammar : Bytes → α → Prop) : Prop :=
  ∀ bytes value rest, reader bytes = .ok (value, rest) ↔
    ∃ front, grammar front value ∧ bytes = front ++ rest

/-- What is read was written in the grammar. -/
theorem numeral_of_varintWithin {room : Nat} {bytes rest : Bytes} {value : Nat}
    (h : varintWithin (room + 1) bytes = .ok (value, rest)) :
    ∃ front, Numeral front value ∧ front.length ≤ room + 1 ∧ value < 2 * Nat.pow 128 room ∧
      bytes = front ++ rest := by
  induction room generalizing bytes value with
  | zero =>
    cases bytes with
    | nil => cases h
    | cons octet bytes =>
      rw [varintWithin] at h
      split at h
      next ho =>
        split at h
        · cases h
        next hs =>
          cases h
          have hp : Nat.pow 128 0 = 1 := rfl
          exact ⟨[octet], .last ho, Nat.le_refl 1, by omega, rfl⟩
      next ho =>
        cases h
  | succ room ih =>
    cases bytes with
    | nil => cases h
    | cons octet bytes =>
      have hp : Nat.pow 128 (room + 1) = Nat.pow 128 room * 128 := rfl
      have hq : 0 < Nat.pow 128 room := Nat.pow_pos (by decide)
      rw [varintWithin] at h
      split at h
      next ho =>
        split at h
        · cases h
        · cases h
          refine ⟨[octet], .last ho, ?_, by omega, rfl⟩
          rw [List.length_singleton]
          omega
      next ho =>
        split at h
        next high after hr =>
          cases h
          obtain ⟨front, hn, hl, hv, rfl⟩ := ih hr
          have hb := octet.toNat_lt
          refine ⟨octet :: front, .more (by omega) hn, ?_, by omega, rfl⟩
          rw [List.length_cons]
          omega
        · cases h

/-- What is written in the grammar is read, whatever follows it. -/
theorem varintWithin_of_numeral {front : Bytes} {value : Nat} (h : Numeral front value)
    {room : Nat} (short : front.length ≤ room + 1) (bounded : value < 2 * Nat.pow 128 room)
    (rest : Bytes) : varintWithin (room + 1) (front ++ rest) = .ok (value, rest) := by
  induction h generalizing room with
  | @last octet low =>
    have hz : ¬(room = 0 ∧ 2 ≤ octet.toNat) := by
      rintro ⟨rfl, ht⟩
      have hp : Nat.pow 128 0 = 1 := rfl
      omega
    rw [List.singleton_append, varintWithin, if_pos low, if_neg hz]
  | @more octet tail high marked later ih =>
    obtain ⟨room, rfl⟩ : ∃ less, room = less + 1 := by
      cases room with
      | succ room => exact ⟨room, rfl⟩
      | zero =>
        cases later with
        | last low => cases Nat.not_succ_le_self 1 short
        | more marked later => rw [List.length_cons, List.length_cons] at short; omega
    have hp : Nat.pow 128 (room + 1) = Nat.pow 128 room * 128 := rfl
    rw [List.length_cons] at short
    have hr : varintWithin (room + 1) (tail ++ rest) = .ok (high, rest) :=
      ih (by omega) (by omega)
    rw [List.cons_append, varintWithin, if_neg (by omega), hr]

/-- A number is read exactly when it stands in front. -/
theorem readVarint_accepts : Accepts readVarint IsNumber := by
  intro bytes value rest
  constructor
  · intro h
    obtain ⟨front, hn, hl, hv, he⟩ := numeral_of_varintWithin h
    exact ⟨front, ⟨hn, hl, hv⟩, he⟩
  · rintro ⟨front, ⟨hn, hl, hv⟩, rfl⟩
    exact varintWithin_of_numeral hn hl hv rest

/-- A number takes at least one octet. -/
theorem IsNumber.length_pos {bytes : Bytes} {value : Nat} (h : IsNumber bytes value) :
    0 < bytes.length := by
  cases h.numeral <;> exact Nat.zero_lt_succ _

/-- A wire type is found by its number only. -/
theorem ofNumber_eq_some_iff (number : Nat) (wire : WireType) :
    WireType.ofNumber? number = some wire ↔ number = wire.number := by
  constructor
  · intro h
    rcases number with _ | _ | _ | _ | _ | _ | number <;> cases h <;> rfl
  · rintro rfl
    exact ofNumber_number wire

/-- A key is read exactly when it stands in front. -/
theorem readKey_ok_iff {bytes rest : Bytes} {number : Nat} {wire : WireType} :
    readKey bytes = .ok (number, wire, rest) ↔
      ∃ key, IsKey key number wire ∧ bytes = key ++ rest := by
  have hb : numberBound = 536870912 := rfl
  have hp : Nat.pow 2 32 = 4294967296 := rfl
  have hw := wire_number_lt wire
  constructor
  · intro h
    rw [readKey] at h
    split at h
    · cases h
    next value after hr =>
      obtain ⟨front, hn, he⟩ := (readVarint_accepts _ _ _).mp hr
      split at h
      · cases h
      next hl =>
        split at h
        · cases h
        next found hf =>
          have hm := (ofNumber_eq_some_iff _ _).mp hf
          split at h
          · cases h
          next hz =>
            cases h
            have hv : value / 8 * 8 + wire.number = value := by omega
            exact ⟨front, ⟨by rwa [hv], by omega, by omega⟩, he⟩
  · rintro ⟨key, ⟨hn, hz, hl⟩, rfl⟩
    have hr := (readVarint_accepts _ _ rest).mpr ⟨key, hn, rfl⟩
    have hm : (number * 8 + wire.number) % 8 = wire.number := by omega
    have hd : (number * 8 + wire.number) / 8 = number := by omega
    simp only [readKey, hr, hm, hd, ofNumber_number]
    rw [if_neg (by omega), if_neg (by omega)]

/-- Octets are split off exactly when they stand in front. -/
theorem splitExact_eq_some_iff {count : Nat} {bytes front rest : Bytes} :
    bytes.splitExact? count = some (front, rest) ↔
      front.length = count ∧ bytes = front ++ rest := by
  constructor
  · intro h
    have hl := (length_of_splitExact h).1
    rw [Bytes.splitExact?] at h
    split at h
    next hc =>
      cases h
      exact ⟨hl, (List.take_append_drop count bytes).symm⟩
    · cases h
  · rintro ⟨rfl, rfl⟩
    exact splitExact_append front rest

/-- A stretch is read exactly when it stands in front. -/
theorem readDelimited_accepts : Accepts readDelimited IsStretch := by
  intro bytes content rest
  constructor
  · intro h
    rw [readDelimited] at h
    split at h
    · cases h
    next length after hr =>
      obtain ⟨front, hn, rfl⟩ := (readVarint_accepts _ _ _).mp hr
      split at h
      next split hs =>
        cases h
        obtain ⟨rfl, rfl⟩ := splitExact_eq_some_iff.mp hs
        exact ⟨front ++ content, ⟨front, hn, rfl⟩, (List.append_assoc _ _ _).symm⟩
      · cases h
  · rintro ⟨_, ⟨front, hn, rfl⟩, rfl⟩
    have hr := (readVarint_accepts _ _ (content ++ rest)).mpr ⟨front, hn, rfl⟩
    simp only [readDelimited, List.append_assoc, hr, splitExact_append]

/-- Octets are dropped exactly when there are so many. -/
theorem dropExact_ok_iff {count : Nat} {bytes rest : Bytes} :
    dropExact count bytes = .ok rest ↔
      ∃ content, content.length = count ∧ bytes = content ++ rest := by
  constructor
  · intro h
    rw [dropExact] at h
    split at h
    next front after hs =>
      cases h
      exact ⟨front, splitExact_eq_some_iff.mp hs⟩
    · cases h
  · rintro ⟨content, hc⟩
    rw [dropExact, splitExact_eq_some_iff.mpr hc]

/-- A group is passed over exactly when it is enclosed, where the fields inside it are passed over
exactly when they are whole. -/
theorem skipGroup_ok_iff {pass : Nat → WireType → Bytes → Except DecodeError Bytes}
    {whole : Nat → WireType → Bytes → Prop}
    (exact : ∀ number wire bytes rest, pass number wire bytes = .ok rest ↔
      ∃ content, whole number wire content ∧ bytes = content ++ rest)
    {number fuel : Nat} {bytes rest : Bytes} (enough : bytes.length < fuel) :
    skipGroup pass number fuel bytes = .ok rest ↔
      ∃ content, Enclosed whole number content ∧ bytes = content ++ rest := by
  induction fuel generalizing bytes with
  | zero => omega
  | succ fuel ih =>
    constructor
    · intro h
      rw [skipGroup] at h
      split at h
      · cases h
      next inner wire after hr =>
        obtain ⟨key, hk, rfl⟩ := readKey_ok_iff.mp hr
        have hl := hk.holds.length_pos
        rw [List.length_append] at enough
        split at h
        next he =>
          split at h
          next hn =>
            cases h
            subst he hn
            exact ⟨key, .ends hk, rfl⟩
          · cases h
        next hg =>
          split at h
          · cases h
          next left hs =>
            obtain ⟨content, hw, rfl⟩ := (exact _ _ _ _).mp hs
            rw [List.length_append] at enough
            obtain ⟨tail, ht, rfl⟩ := (ih (by omega)).mp h
            refine ⟨key ++ content ++ tail, .field hk hg hw ht, ?_⟩
            simp only [List.append_assoc]
    · rintro ⟨content, hc, rfl⟩
      cases hc with
      | ends hk =>
        have hr := readKey_ok_iff.mpr ⟨content, hk, (rfl : content ++ rest = content ++ rest)⟩
        simp only [skipGroup, hr, if_true]
      | @field key content tail inner wire hk hg hw ht =>
        have hl := hk.holds.length_pos
        have hr := readKey_ok_iff.mpr ⟨key, hk, (rfl : key ++ (content ++ (tail ++ rest)) = _)⟩
        have hs := (exact inner wire (content ++ (tail ++ rest)) (tail ++ rest)).mpr
          ⟨content, hw, rfl⟩
        have hf : (tail ++ rest).length < fuel := by
          simp only [List.length_append] at enough ⊢
          omega
        simp only [skipGroup, List.append_assoc, hr, if_neg hg, hs]
        exact (ih hf).mpr ⟨tail, ht, rfl⟩

/-- What is made of a reading that nobody looks at. -/
theorem map_snd_ok_iff {α : Type} {reader : Bytes → Reading α} {grammar : Bytes → α → Prop}
    (accepts : Accepts reader grammar) {bytes rest : Bytes} :
    (reader bytes).map (·.2) = .ok rest ↔
      ∃ content, (∃ value, grammar content value) ∧ bytes = content ++ rest := by
  constructor
  · intro h
    cases hr : reader bytes with
    | error error =>
      rw [hr] at h
      cases h
    | ok found =>
      obtain ⟨value, after⟩ := found
      rw [hr] at h
      cases h
      obtain ⟨front, hg, he⟩ := (accepts _ _ _).mp hr
      exact ⟨front, ⟨value, hg⟩, he⟩
  · rintro ⟨content, ⟨value, hg⟩, rfl⟩
    rw [(accepts _ _ _).mpr ⟨content, hg, rfl⟩]
    rfl

/-- A field that nobody asked for is passed over exactly when it is well formed. -/
theorem skipField_ok_iff (depth number : Nat) (wire : WireType) (bytes rest : Bytes) :
    skipField depth number wire bytes = .ok rest ↔
      ∃ content, WellFormed depth number wire content ∧ bytes = content ++ rest := by
  induction depth generalizing number wire bytes rest with
  | zero =>
    refine iff_of_false (fun h => by cases h) ?_
    rintro ⟨_, hw, _⟩
    exact hw
  | succ depth ih =>
    cases wire with
    | varint => exact map_snd_ok_iff readVarint_accepts
    | lengthDelimited => exact map_snd_ok_iff readDelimited_accepts
    | thirtyTwoBit => exact dropExact_ok_iff
    | sixtyFourBit => exact dropExact_ok_iff
    | startGroup => exact skipGroup_ok_iff ih (Nat.lt_succ_self _)
    | endGroup =>
      refine iff_of_false (fun h => by cases h) ?_
      rintro ⟨_, hw, _⟩
      exact hw

end MediaGateway.Protobuf
