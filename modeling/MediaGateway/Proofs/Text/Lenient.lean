import Mathlib.Data.List.TakeWhile
import MediaGateway.Proofs.Text.Utf8

/-!
# Lenient reading of a text

The octets of a text are well-formed, so nothing in them is replaced when they are
read leniently. A leading octet announces how many octets follow it, the range of
the first of them and its own share of the code point; each further octet adds six
bits.
-/

namespace MediaGateway.Bytes

deriving instance DecidableEq for Lead

/-- The octet that continues a character by six bits. -/
def further (bits : Nat) : UInt8 := UInt8.ofNat (bits + 128)

/-- The value of an octet that continues a character. -/
theorem further_toNat {bits : Nat} (h : bits < 64) : (further bits).toNat = bits + 128 := by
  rw [further, UInt8.toNat_ofNat']
  omega

/-- Octets with more in six bits are greater. -/
theorem further_le {fewer more : Nat} (h : fewer ≤ more) (small : more < 64) :
    further fewer ≤ further more := by
  rw [UInt8.le_iff_toNat_le, further_toNat (Nat.lt_of_le_of_lt h small), further_toNat small]
  exact Nat.add_le_add_right h 128

/-- Octets of six bits are in the range of those that continue a character. -/
theorem further_range {bits : Nat} (h : bits < 64) : 0x80 ≤ further bits ∧ further bits ≤ 0xBF :=
  ⟨further_le (Nat.zero_le bits) h, further_le (Nat.le_of_lt_succ h) (by decide)⟩

/-- Octets of six bits continue a character. -/
theorem isContinuation_further {bits : Nat} (h : bits < 64) :
    isContinuation (further bits) = true := by
  simp only [isContinuation, further_range h, decide_true, Bool.and_self]

/-- Octets of six bits each continue a character. -/
theorem all_further {later : List Nat} (h : ∀ bits ∈ later, bits < 64) :
    ∀ octet ∈ later.map further, isContinuation octet = true := by
  intro octet member
  obtain ⟨bits, hm, rfl⟩ := List.mem_map.mp member
  exact isContinuation_further (h bits hm)

/-- Octets fit an announcement when the first is in its range and they are as many as it says. -/
theorem fitting_eq {announced : Lead} {bits : Nat} {later : List Nat}
    (count : announced.following = later.length + 1)
    (first : announced.least ≤ further bits ∧ further bits ≤ announced.greatest)
    (small : ∀ bits ∈ later, bits < 64) (rest : Bytes) :
    fitting announced ((bits :: later).map further ++ rest) = (bits :: later).map further := by
  have hk : (later.map further).takeWhile isContinuation = later.map further :=
    List.takeWhile_eq_self_iff.mpr (all_further small)
  have hl : (later.map further ++ rest).take later.length = later.map further := by
    rw [← List.length_map (f := further), List.take_left]
  simp only [fitting, count, List.map_cons, List.cons_append, first, decide_true, Bool.and_self,
    if_true, hl, hk]

/-- A code point with six more bits. -/
def shifted (code bits : Nat) : Nat := code * 64 + bits

/-- Octets of six bits each add their bits to a code point. -/
theorem foldl_further {more : List Nat} (small : ∀ bits ∈ more, bits < 64) (code : Nat) :
    (more.map further).foldl (fun code octet => code * 64 + (octet.toNat - 0x80)) code =
      more.foldl shifted code := by
  induction more generalizing code with
  | nil => rfl
  | cons bits more ih =>
    obtain ⟨hb, hm⟩ := List.forall_mem_cons.mp small
    rw [List.map_cons, List.foldl_cons, List.foldl_cons, further_toNat hb, Nat.add_sub_cancel,
      ih hm, shifted]

/-- A leading octet and the octets that it announces are read as one character. -/
theorem lenientChars_lead {lead : UInt8} {announced : Lead} (hl : lead? lead = some announced)
    {bits : Nat} {later : List Nat} (count : announced.following = later.length + 1)
    (first : announced.least ≤ further bits ∧ further bits ≤ announced.greatest)
    (small : ∀ more ∈ bits :: later, more < 64) {code : Nat}
    (whole : (bits :: later).foldl shifted announced.payload = code) (rest : Bytes) :
    lenientChars (lead :: ((bits :: later).map further ++ rest)) =
      Char.ofNat code :: lenientChars rest := by
  have hf := fitting_eq count first (List.forall_mem_cons.mp small).2 rest
  have hc : ((bits :: later).map further).length = announced.following := by
    rw [count, List.length_map, List.length_cons]
  rw [lenientChars]
  simp only [hl, hf, hc, if_true]
  rw [foldl_further small, whole, ← hc, List.drop_left]

/-- A leading octet of two announces one more. -/
theorem lead_two (share : Nat) (hl : 2 ≤ share) (hu : share < 32) :
    lead? (UInt8.ofNat (share + 192)) = some ⟨1, 0x80, 0xBF, share⟩ := by
  have hall : ∀ share : Fin 32, 2 ≤ share.val →
      lead? (UInt8.ofNat (share.val + 192)) = some ⟨1, 0x80, 0xBF, share.val⟩ := by decide
  exact hall ⟨share, hu⟩ hl

/-- A leading octet of three announces two more. The first of them is no less than 32 when the
character would fit less, and is less than 32 where surrogates would come. -/
theorem lead_three (share : Nat) (h : share < 16) :
    lead? (UInt8.ofNat (share + 224)) = some ⟨2, if share = 0 then further 32 else 0x80,
      if share = 13 then further 31 else 0xBF, share⟩ := by
  have hall : ∀ share : Fin 16, lead? (UInt8.ofNat (share.val + 224)) =
      some ⟨2, if share.val = 0 then further 32 else 0x80,
        if share.val = 13 then further 31 else 0xBF, share.val⟩ := by decide
  exact hall ⟨share, h⟩

/-- A leading octet of four announces three more. The first of them is no less than 16 when the
character would fit less, and is less than 16 where characters end. -/
theorem lead_four (share : Nat) (h : share < 5) :
    lead? (UInt8.ofNat (share + 240)) = some ⟨3, if share = 0 then further 16 else 0x80,
      if share = 4 then further 15 else 0xBF, share⟩ := by
  have hall : ∀ share : Fin 5, lead? (UInt8.ofNat (share.val + 240)) =
      some ⟨3, if share.val = 0 then further 16 else 0x80,
        if share.val = 4 then further 15 else 0xBF, share.val⟩ := by decide
  exact hall ⟨share, h⟩

/-- An octet of six bits is in a range that is narrower under some conditions only. -/
theorem further_between {bits least greatest : Nat} (h : bits < 64) (small : greatest < 64)
    {low high : Prop} [Decidable low] [Decidable high] (below : low → least ≤ bits)
    (above : high → bits ≤ greatest) :
    (if low then further least else 0x80) ≤ further bits ∧
      further bits ≤ if high then further greatest else 0xBF := by
  constructor
  · split
    next holds => exact further_le (below holds) h
    next => exact (further_range h).1
  · split
    next holds => exact further_le (above holds) small
    next => exact (further_range h).2

/-- An octet in ASCII is read as a character of its own. -/
theorem lenientChars_ascii {value : Nat} (h : value < 128) (rest : Bytes) :
    lenientChars (UInt8.ofNat value :: rest) = Char.ofNat value :: lenientChars rest := by
  have hall : ∀ value : Fin 128,
      lead? (UInt8.ofNat value.val) = some ⟨0, 0, 0, value.val⟩ := by decide
  rw [lenientChars]
  simp only [hall ⟨value, h⟩, fitting, List.length_nil, if_true, List.foldl_nil, List.drop_zero]

/-- The octets of a character are read as the character. -/
theorem lenientChars_utf8EncodeChar (char : Char) (rest : Bytes) :
    lenientChars (String.utf8EncodeChar char ++ rest) = char :: lenientChars rest := by
  have hv : char.val.toNat = char.toNat := rfl
  have valid : char.toNat < 0xD800 ∨ 0xDFFF < char.toNat ∧ char.toNat < 0x110000 := char.valid
  have hc : Char.ofNat char.toNat = char := Char.ofNat_toNat char
  rw [String.utf8EncodeChar, hv]
  generalize char.toNat = value at valid hc ⊢
  have low : ∀ bits, value / bits % 64 < 64 := fun bits => Nat.mod_lt _ (by decide)
  have last : ∀ bits ∈ [value % 64], bits < 64 :=
    List.forall_mem_singleton.mpr (Nat.mod_lt _ (by decide))
  have lastTwo : ∀ bits ∈ [value / 64 % 64, value % 64], bits < 64 :=
    List.forall_mem_cons.mpr ⟨low 64, last⟩
  have lastThree : ∀ bits ∈ [value / 4096 % 64, value / 64 % 64, value % 64], bits < 64 :=
    List.forall_mem_cons.mpr ⟨low 4096, lastTwo⟩
  -- One case for each number of octets; the narrower ranges are those of valid code points.
  split
  next one => rw [List.singleton_append, lenientChars_ascii (by omega), hc]
  next =>
    split
    next two =>
      have whole : [value % 64].foldl shifted (value / 64 % 32) = value := by
        simp only [List.foldl_cons, List.foldl_nil, shifted]
        omega
      have hr := lenientChars_lead (lead_two (value / 64 % 32) (by omega) (by omega)) rfl
        (further_range (Nat.mod_lt _ (by decide))) last whole rest
      rwa [hc] at hr
    next =>
      split
      next three =>
        have whole : [value / 64 % 64, value % 64].foldl shifted (value / 4096 % 16) = value := by
          simp only [List.foldl_cons, List.foldl_nil, shifted]
          omega
        have hr := lenientChars_lead (lead_three (value / 4096 % 16) (by omega)) rfl
          (further_between (low 64) (by decide) (by omega) (by omega)) lastTwo whole rest
        rwa [hc] at hr
      next =>
        have whole : [value / 4096 % 64, value / 64 % 64, value % 64].foldl shifted
            (value / 262144 % 8) = value := by
          simp only [List.foldl_cons, List.foldl_nil, shifted]
          omega
        have hr := lenientChars_lead (lead_four (value / 262144 % 8) (by omega)) rfl
          (further_between (low 4096) (by decide) (by omega) (by omega)) lastThree whole rest
        rwa [hc] at hr

/-- The octets of a text are read as the text, leniently too. -/
theorem toTextLenient_ofText (text : String) : toTextLenient (ofText text) = text := by
  have hc : ∀ chars : List Char, lenientChars (chars.flatMap String.utf8EncodeChar) = chars := by
    intro chars
    induction chars with
    | nil => rw [List.flatMap_nil, lenientChars]
    | cons char chars ih => rw [List.flatMap_cons, lenientChars_utf8EncodeChar, ih]
  rw [toTextLenient, ofText_eq_flatMap, hc, String.ofList_toList]

end MediaGateway.Bytes
