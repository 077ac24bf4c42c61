import MediaGateway.Proofs.Json.Quoted

/-!
# Texts that are read from between quotes

The octets between quotes are read as a text only when what they make is that of
characters. An escape makes a whole character, so none stands among the octets of
a character that stands for itself; what is read is therefore what stands there.
-/

namespace MediaGateway

namespace Bytes

/-- A character has one octet that begins it, and behind that none but octets that continue it. -/
theorem exists_utf8EncodeChar (char : Char) :
    ∃ first rest, String.utf8EncodeChar char = first :: rest ∧ isContinuation first = false ∧
      ∀ octet ∈ rest, isContinuation octet = true := by
  have hc : ∀ value, 0x80 ≤ value → value ≤ 0xBF →
      isContinuation (UInt8.ofNat value) = true := by
    intro value hl hu
    have hv : (UInt8.ofNat value).toNat = value := by
      rw [UInt8.toNat_ofNat']
      omega
    simp only [isContinuation, UInt8.le_iff_toNat_le, hv, Bool.and_eq_true, decide_eq_true_eq]
    exact ⟨hl, hu⟩
  have hf : ∀ value, value < 0x100 → value < 0x80 ∨ 0xBF < value →
      isContinuation (UInt8.ofNat value) = false := by
    intro value hu ho
    have hv : (UInt8.ofNat value).toNat = value := by
      rw [UInt8.toNat_ofNat']
      omega
    have hb : UInt8.toNat 0x80 = 0x80 ∧ UInt8.toNat 0xBF = 0xBF := ⟨rfl, rfl⟩
    simp only [isContinuation, UInt8.le_iff_toNat_le, hv, hb.1, hb.2, Bool.and_eq_false_iff,
      decide_eq_false_iff_not]
    omega
  have hl : char.val.toNat < 0x110000 := char.valid.elim (by omega) (fun h => by omega)
  rw [String.utf8EncodeChar]
  split
  · exact ⟨_, _, rfl, hf _ (by omega) (by omega), fun octet member => (by cases member)⟩
  · split
    · refine ⟨_, _, rfl, hf _ (by omega) (by omega), List.forall_mem_singleton.mpr ?_⟩
      exact hc _ (by omega) (by omega)
    · split
      · refine ⟨_, _, rfl, hf _ (by omega) (by omega), ?_⟩
        exact List.forall_mem_cons.mpr ⟨hc _ (by omega) (by omega),
          List.forall_mem_singleton.mpr (hc _ (by omega) (by omega))⟩
      · refine ⟨_, _, rfl, hf _ (by omega) (by omega), ?_⟩
        exact List.forall_mem_cons.mpr ⟨hc _ (by omega) (by omega),
          List.forall_mem_cons.mpr ⟨hc _ (by omega) (by omega),
            List.forall_mem_singleton.mpr (hc _ (by omega) (by omega))⟩⟩

/-- Octets begin with those of one character at most. -/
theorem utf8EncodeChar_append_inj {left right : Char} {front back : Bytes}
    (h : String.utf8EncodeChar left ++ front = String.utf8EncodeChar right ++ back) :
    left = right ∧ front = back := by
  have hd := congrArg (fun octets : Bytes => octets.toByteArray.utf8DecodeChar? 0) h
  simp only [List.toByteArray_append, ByteArray.utf8DecodeChar?_utf8EncodeChar_append,
    Option.some.injEq] at hd
  subst hd
  exact ⟨rfl, List.append_cancel_left h⟩

end Bytes

namespace Json

/-- An escape and the character that it stands for. -/
inductive Escapes : Bytes → Char → Prop where
  /-- A short escape. -/
  | short {mark : UInt8} {char : Char} (known : (mark, char) ∈ shortEscapes) :
    Escapes [0x5C, mark] char
  /-- A long escape. -/
  | long {a b c d : UInt8} {code : Nat} (hex : IsHex [a, b, c, d] code)
    (whole : code < 0xD800 ∨ 0xE000 ≤ code) :
    Escapes [0x5C, 0x75, a, b, c, d] (Char.ofNat code)
  /-- Two long escapes for one character. -/
  | pair {a b c d e f g h : UInt8} {high low : Nat} (hexHigh : IsHex [a, b, c, d] (0xD800 + high))
    (hexLow : IsHex [e, f, g, h] (0xDC00 + low)) (highFits : high < 0x400)
    (lowFits : low < 0x400) :
    Escapes [0x5C, 0x75, a, b, c, d, 0x5C, 0x75, e, f, g, h]
      (Char.ofNat (0x10000 + high * 0x400 + low))

/-- What stands for characters still does so with an escape in front. -/
theorem Escapes.stands {octets rest : Bytes} {char : Char} {chars : List Char}
    (escapes : Escapes octets char) (more : Stands rest chars) :
    Stands (octets ++ rest) (char :: chars) := by
  cases escapes with
  | short known => exact .short known more
  | long hex whole => exact .long hex whole more
  | pair hexHigh hexLow highFits lowFits => exact .pair hexHigh hexLow highFits lowFits more

/-- The octets that octets between quotes make: an escape those of its character, and every other
octet itself. -/
inductive Makes : Bytes → Bytes → Prop where
  /-- Nothing. -/
  | done : Makes [] []
  /-- An octet makes itself. -/
  | plain {octet : UInt8} {rest made : Bytes} (control : ¬octet < 0x20) (quote : octet ≠ 0x22)
    (backslash : octet ≠ 0x5C) (more : Makes rest made) : Makes (octet :: rest) (octet :: made)
  /-- An escape makes its character. -/
  | escape {octets rest made : Bytes} {char : Char} (escapes : Escapes octets char)
    (more : Makes rest made) : Makes (octets ++ rest) (String.utf8EncodeChar char ++ made)

/-- What may follow a backslash is known. -/
theorem exists_of_mem_escapeMarks {mark : UInt8} (h : mark ∈ escapeMarks) :
    ∃ char, (mark, char) ∈ shortEscapes := by
  have he : escapeMarks = shortEscapes.map Prod.fst := rfl
  rw [he, List.mem_map] at h
  obtain ⟨⟨_, char⟩, member, rfl⟩ := h
  exact ⟨char, member⟩

/-- A long escape that is half of a pair is read together with the other half, and not at all
without it. -/
theorem unescape_half {a b c d : UInt8} {rest seen whole : Bytes}
    (half : 0xD800 ≤ hexOctets [a, b, c, d] ∧ hexOctets [a, b, c, d] < 0xE000)
    (h : unescape seen (0x5C :: 0x75 :: a :: b :: c :: d :: rest) = some whole) :
    ∃ e f g h behind, rest = 0x5C :: 0x75 :: e :: f :: g :: h :: behind ∧
      hexOctets [a, b, c, d] < 0xDC00 ∧ 0xDC00 ≤ hexOctets [e, f, g, h] ∧
      hexOctets [e, f, g, h] < 0xE000 := by
  rw [unescape.eq_def] at h
  split at h
  next he => contradiction
  next he =>
    simp only [List.cons.injEq, true_and] at he
    obtain ⟨rfl, rfl, rfl, rfl, rfl⟩ := he
    dsimp only at h
    split at h
    next high =>
      split at h
      next low => exact ⟨_, _, _, _, _, rfl, high.2, low.1, low.2⟩
      · cases h
    next low =>
      rw [if_pos (by omega)] at h
      cases h
  next he =>
    simp only [List.cons.injEq, true_and] at he
    obtain ⟨rfl, rfl, rfl, rfl, rfl⟩ := he
    dsimp only at h
    rw [if_pos half] at h
    cases h
  next hn he =>
    simp only [List.cons.injEq, true_and] at he
    exact absurd he.2.symm (hn a b c d rest he.1.symm)
  next hn _ he =>
    simp only [List.cons.injEq] at he
    exact absurd he.2.symm (hn a b c d rest he.1.symm)

/-- What is read from between quotes is what stands there makes. -/
theorem makes_of_unescape {inside : Bytes} (h : IsInside inside) {seen whole : Bytes}
    (reads : unescape seen inside = some whole) :
    ∃ made, whole = seen.reverse ++ made ∧ Makes inside made := by
  induction hn : inside.length using Nat.strongRecOn generalizing inside seen with
  | ind length ih =>
    subst hn
    -- what one step reads comes in front of what the rest makes
    have step : ∀ (octets front : Bytes) {rest : Bytes}, inside = octets ++ rest → octets ≠ [] →
        IsInside rest → unescape (front.reverse ++ seen) rest = some whole →
        ∃ made, whole = seen.reverse ++ (front ++ made) ∧ Makes rest made := by
      intro octets front rest hi ho hr reads
      have hl : rest.length < inside.length := by
        rw [hi, List.length_append]
        have := List.length_pos_iff.mpr ho
        omega
      obtain ⟨made, hw, makes⟩ := ih _ hl hr reads rfl
      refine ⟨made, ?_, makes⟩
      rw [hw, List.reverse_append, List.reverse_reverse, List.append_assoc]
    cases h with
    | done =>
      rw [unescape] at reads
      exact ⟨[], by rw [List.append_nil, Option.some.inj reads], .done⟩
    | @plain octet rest control quote backslash more =>
      have hp := unescape_plain (List.forall_mem_singleton.mpr backslash) seen rest
      obtain ⟨made, hw, makes⟩ := step [octet] [octet] rfl (List.cons_ne_nil _ _) more
        (hp.symm.trans reads)
      exact ⟨octet :: made, hw, .plain control quote backslash makes⟩
    | @short mark rest known more =>
      obtain ⟨char, hs⟩ := exists_of_mem_escapeMarks known
      rw [unescape_short hs] at reads
      obtain ⟨made, hw, makes⟩ := step [0x5C, mark] _ rfl (List.cons_ne_nil _ _) more reads
      exact ⟨_, hw, .escape (.short hs) makes⟩
    | @long a b c d rest hex more =>
      by_cases whole : hexOctets [a, b, c, d] < 0xD800 ∨ 0xE000 ≤ hexOctets [a, b, c, d]
      · rw [unescape_long whole] at reads
        obtain ⟨made, hw, makes⟩ := step [0x5C, 0x75, a, b, c, d] _ rfl
          (List.cons_ne_nil _ _) more reads
        exact ⟨_, hw, .escape (.long ⟨hex, rfl⟩ whole) makes⟩
      · obtain ⟨e, f, g, h, behind, rfl, high, low, fits⟩ := unescape_half (by omega) reads
        obtain ⟨highPart, hh⟩ := Nat.exists_eq_add_of_le
          (by omega : 0xD800 ≤ hexOctets [a, b, c, d])
        obtain ⟨lowPart, hl⟩ := Nat.exists_eq_add_of_le low
        rw [unescape_pair hh hl (by omega) (by omega)] at reads
        cases more with
        | plain control quote backslash more => exact absurd rfl backslash
        | short known more => exact absurd known (by decide)
        | long hexLow more =>
          obtain ⟨made, hw, makes⟩ := step [0x5C, 0x75, a, b, c, d, 0x5C, 0x75, e, f, g, h] _
            rfl (List.cons_ne_nil _ _) more reads
          exact ⟨_, hw, .escape (.pair ⟨hex, hh⟩ ⟨hexLow, hl⟩ (by omega) (by omega)) makes⟩

/-- Octets that continue a character are made by themselves. -/
theorem Makes.split {tail inside made : Bytes}
    (continued : ∀ octet ∈ tail, Bytes.isContinuation octet = true)
    (h : Makes inside (tail ++ made)) : ∃ rest, inside = tail ++ rest ∧ Makes rest made := by
  induction tail generalizing inside with
  | nil => exact ⟨inside, rfl, h⟩
  | cons octet tail ih =>
    obtain ⟨now, later⟩ := List.forall_mem_cons.mp continued
    generalize hw : octet :: tail ++ made = whole at h
    cases h with
    | done => cases hw
    | plain control quote backslash more =>
      obtain ⟨rfl, rfl⟩ := List.cons.inj hw
      obtain ⟨rest, rfl, makes⟩ := ih later more
      exact ⟨rest, rfl, makes⟩
    | @escape _ _ _ char escapes more =>
      obtain ⟨first, behind, he, begins, _⟩ := Bytes.exists_utf8EncodeChar char
      rw [he] at hw
      obtain ⟨rfl, _⟩ := List.cons.inj hw
      exact absurd (now.symm.trans begins) Bool.noConfusion

/-- A character whose first octet stands for itself is no control character, quote or
backslash. -/
theorem plain_of_first {char : Char} {first : UInt8} {rest : Bytes}
    (h : String.utf8EncodeChar char = first :: rest) (control : ¬first < 0x20)
    (quote : first ≠ 0x22) (backslash : first ≠ 0x5C) :
    0x20 ≤ char.toNat ∧ char ≠ '"' ∧ char ≠ '\\' := by
  refine ⟨?_, ?_, ?_⟩
  · by_contra small
    rw [Bytes.utf8EncodeChar_ascii (by omega)] at h
    obtain ⟨rfl, _⟩ := List.cons.inj h
    rw [UInt8.lt_iff_toNat_lt, UInt8.toNat_ofNat'] at control
    have hv : UInt8.toNat 0x20 = 0x20 := rfl
    omega
  · rintro rfl
    exact quote (List.cons.inj h).1.symm
  · rintro rfl
    exact backslash (List.cons.inj h).1.symm

/-- What makes the octets of characters stands for them. -/
theorem stands_of_makes {inside : Bytes} {chars : List Char}
    (h : Makes inside (octetsOf chars)) : Stands inside chars := by
  induction chars generalizing inside with
  | nil =>
    rw [octetsOf, List.flatMap_nil] at h
    generalize hw : ([] : Bytes) = whole at h
    cases h with
    | done => exact .done
    | plain => cases hw
    | @escape _ _ _ char =>
      obtain ⟨first, behind, he, _⟩ := Bytes.exists_utf8EncodeChar char
      rw [he] at hw
      cases hw
  | cons char chars ih =>
    have ho : octetsOf (char :: chars) = String.utf8EncodeChar char ++ octetsOf chars :=
      List.flatMap_cons
    rw [ho] at h
    generalize hw : String.utf8EncodeChar char ++ octetsOf chars = whole at h
    cases h with
    | done =>
      obtain ⟨first, behind, he, _⟩ := Bytes.exists_utf8EncodeChar char
      rw [he] at hw
      cases hw
    | @plain octet rest made control quote backslash more =>
      obtain ⟨first, behind, he, _, continued⟩ := Bytes.exists_utf8EncodeChar char
      rw [he] at hw
      obtain ⟨rfl, rfl⟩ := List.cons.inj hw
      obtain ⟨rest, rfl, makes⟩ := more.split continued
      obtain ⟨hc, hq, hb⟩ := plain_of_first he control quote backslash
      have stands := Stands.plain hc hq hb (ih makes)
      rwa [he] at stands
    | escape escapes more =>
      obtain ⟨rfl, rfl⟩ := Bytes.utf8EncodeChar_append_inj hw
      exact escapes.stands (ih more)

/-- What may stand between quotes is read as a text exactly when it stands for the text. -/
theorem unquoted_eq_some_iff {inside : Bytes} (h : IsInside inside) {text : String} :
    unquoted? inside = some text ↔ Stands inside text.toList := by
  refine ⟨fun reads => ?_, unquoted_of_stands⟩
  obtain ⟨octets, hu, ht⟩ := Option.bind_eq_some_iff.mp reads
  obtain ⟨made, rfl, makes⟩ := makes_of_unescape h hu
  rw [← Bytes.ofText_of_toText ht, Bytes.ofText_eq_flatMap] at makes
  exact stands_of_makes makes

end Json

end MediaGateway
