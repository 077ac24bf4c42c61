import MediaGateway.Proofs.Text.Numeral
import MediaGateway.Proofs.Text.Utf8
import MediaGateway.Storage.Answers

/-!
# The total that an answer states

An answer may say in a header how many files match in all: by decimal digits with a
sign in front of them or without, and with blanks around them. Anything else there
states nothing.
-/

namespace MediaGateway

/-- The first total of an answer is a number in range, with blanks around it. -/
def Http.Answer.States (answer : Http.Answer) (total : Int) : Prop :=
  ∃ front digits back, answer.header? "x-total-count" =
      some (Bytes.ofText (String.ofList (front ++ (digits ++ back)))) ∧
    (∀ char ∈ front ++ back, char = ' ' ∨ char = '\t') ∧
    Text.IsInteger digits total ∧ Text.InRange64 total

namespace Storage

/-- Whether an octet may stand in the text of a header. -/
def isShown (octet : UInt8) : Bool := (0x20 ≤ octet && octet ≤ 0x7E) || octet = 0x09

/-- Whether a character is a space or a tab. -/
def isGap (char : Char) : Bool := char = ' ' || char = '\t'

/-- Gaps are spaces and tabs. -/
theorem isGap_iff {char : Char} : isGap char = true ↔ char = ' ' ∨ char = '\t' := by
  simp only [isGap, Bool.or_eq_true, decide_eq_true_eq]

/-- Digits and signs are no gaps. -/
theorem isGap_of_shown {char : Char} (h : char.isDigit = true ∨ char = '+' ∨ char = '-') :
    isGap char = false := by
  rw [Bool.eq_false_iff]
  intro gap
  rcases isGap_iff.mp gap with rfl | rfl <;> exact absurd h (by decide)

/-- Octets that are shown are those of their characters. -/
theorem ofText_of_shown {octets : Bytes} (h : octets.all isShown = true) :
    Bytes.ofText (String.ofList (octets.map fun octet => Char.ofNat octet.toNat)) = octets := by
  rw [Bytes.ofText_ofList]
  induction octets with
  | nil => rfl
  | cons octet octets ih =>
    rw [List.all_cons, Bool.and_eq_true] at h
    have hall : ∀ octet : UInt8, isShown octet = true → octet.toNat < 0x80 :=
      Bytes.forall_octet (by decide +kernel)
    rw [List.map_cons, List.flatMap_cons, Bytes.utf8EncodeChar_ofNat (hall octet h.1), ih h.2,
      List.singleton_append]

/-- The characters that a stated total may have are shown. -/
theorem isShown_of_part {char : Char}
    (h : (char.isDigit = true ∨ char = '+' ∨ char = '-') ∨ char = ' ' ∨ char = '\t') :
    char.toNat < 0x80 ∧ isShown (UInt8.ofNat char.toNat) = true := by
  rcases h with (digit | rfl | rfl) | rfl | rfl
  · have hall : ∀ value : Fin 0x80, 48 ≤ value.val → value.val ≤ 57 →
        isShown (UInt8.ofNat value.val) = true := by decide
    simp only [Char.isDigit, Bool.and_eq_true, decide_eq_true_eq, ge_iff_le,
      UInt32.le_iff_toNat_le] at digit
    have hl : 48 ≤ char.toNat := digit.1
    have hu : char.toNat ≤ 57 := digit.2
    have hb : char.toNat < 0x80 := by omega
    exact ⟨hb, hall ⟨char.toNat, hb⟩ hl hu⟩
  all_goals exact ⟨by decide, by decide⟩

/-- Characters of octets that are shown are read back from them. -/
theorem shown_of_text {chars : List Char}
    (h : ∀ char ∈ chars, char.toNat < 0x80 ∧ isShown (UInt8.ofNat char.toNat) = true) :
    (Bytes.ofText (String.ofList chars)).all isShown = true ∧
      (Bytes.ofText (String.ofList chars)).map (fun octet => Char.ofNat octet.toNat) = chars := by
  rw [Bytes.ofText_ofList]
  induction chars with
  | nil => exact ⟨rfl, rfl⟩
  | cons char chars ih =>
    obtain ⟨⟨small, shown⟩, more⟩ := List.forall_mem_cons.mp h
    rw [List.flatMap_cons, Bytes.utf8EncodeChar_ascii small, List.singleton_append, List.all_cons,
      List.map_cons, shown, (ih more).1, (ih more).2, Bytes.char_ofNat_octet small]
    exact ⟨rfl, rfl⟩

/-- A total is read from the text of its header, without the blanks around it. -/
theorem statedTotal_eq_some {answer : Http.Answer} {total : Int64} :
    statedTotal? answer = some total ↔ ∃ octets number,
      answer.header? "x-total-count" = some octets ∧ octets.all isShown = true ∧
        Text.readInt64 (Text.trimWhere isGap (octets.map fun octet => Char.ofNat octet.toNat)) =
          .ok number ∧ Int64.ofInt number = total := by
  rw [statedTotal?]
  cases answer.header? "x-total-count" with
  | none => simp
  | some octets =>
    constructor
    · intro h
      simp only at h
      split at h
      next shown =>
        split at h
        next number reads => exact ⟨octets, number, rfl, shown, reads, Option.some.inj h⟩
        next => cases h
      next => cases h
    · rintro ⟨other, number, same, shown, reads, rfl⟩
      obtain rfl := Option.some.inj same
      simp only
      split
      next =>
        split
        next other also => rw [Except.ok.inj (also.symm.trans reads)]
        next also => cases also.symm.trans reads
      next hidden => exact absurd shown hidden

/-- The total that is read from an answer is the one that the answer states. -/
theorem statedTotal_eq_some_iff {answer : Http.Answer} {total : Int64} :
    statedTotal? answer = some total ↔ answer.States total.toInt := by
  rw [statedTotal_eq_some]
  constructor
  · rintro ⟨octets, number, header, shown, reads, rfl⟩
    obtain ⟨writes, fits⟩ := Text.readInt64_ok_iff.mp reads
    obtain ⟨front, back, whole, ends⟩ := Text.exists_ends isGap
      (octets.map fun octet => Char.ofNat octet.toNat)
    rw [Int64.toInt_ofInt_of_le fits.1 fits.2]
    refine ⟨front, _, back, ?_, fun char member => isGap_iff.mp (ends char member), writes, fits⟩
    rw [header, ← whole, ofText_of_shown shown]
  · rintro ⟨front, digits, back, header, ends, writes, fits⟩
    have parts : ∀ char ∈ front ++ (digits ++ back),
        char.toNat < 0x80 ∧ isShown (UInt8.ofNat char.toNat) = true := by
      intro char member
      refine isShown_of_part ?_
      simp only [List.mem_append] at member ends
      rcases member with hf | hd | hb
      · exact .inr (ends char (.inl hf))
      · exact .inl (writes.shown char hd)
      · exact .inr (ends char (.inr hb))
    obtain ⟨shown, same⟩ := shown_of_text parts
    refine ⟨_, _, header, shown, ?_, Int64.ofInt_toInt total⟩
    rw [same, Text.trimWhere_between (fun char member => isGap_iff.mpr (ends char member))
      fun char member => isGap_of_shown (writes.shown char member)]
    exact Text.readInt64_ok_iff.mpr ⟨writes, fits⟩

end Storage

end MediaGateway
