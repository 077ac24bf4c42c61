import MediaGateway.Proofs.Net.Dotted

/-!
# Reading back groups

A group of sixteen bits is read back from its hexadecimal digits, and groups from the digits of
each with colons between them. What ends a run of groups begins with neither a digit nor a point,
and when it begins with a colon, no group follows that. Where the longest run of zero groups is
left out, the groups in front of it and behind it are read one after the other, and an older
address may stand for the last two of them. So every address of the newer kind is read back.
-/

namespace MediaGateway.Net

open Bytes (hexValue?)

/-! ## One group -/

/-- Whether a character is a hexadecimal digit. -/
abbrev isHex : Char → Bool := fun char => (hexValue? char).isSome

/-- The number that hexadecimal digits write. -/
abbrev hexNumber (digits : List Char) : Nat :=
  digits.foldl (fun value char => value * 16 + (hexValue? char).getD 0) 0

/-- A digit has its number as its value. -/
theorem hexValue?_digitChar {digit : Nat} (h : digit < 16) :
    hexValue? (Nat.digitChar digit) = some digit := by
  have hall : ∀ digit < 16, hexValue? (Nat.digitChar digit) = some digit := by decide
  exact hall digit h

/-- The hexadecimal form of a number consists of digits, and they write the number. -/
theorem hex_toDigits (number : Nat) :
    (∀ char ∈ Nat.toDigits 16 number, isHex char = true) ∧
      hexNumber (Nat.toDigits 16 number) = number := by
  induction number using Nat.strongRecOn with
  | ind number ih =>
    by_cases hn : number < 16
    · rw [Nat.toDigits_of_lt_base hn]
      have hv := hexValue?_digitChar hn
      refine ⟨fun char member => ?_, ?_⟩
      · rw [List.mem_singleton.mp member, isHex, hv]
        rfl
      · simp only [hexNumber, List.foldl_cons, List.foldl_nil, hv, Option.getD_some]
        omega
    · have hb := Nat.not_lt.mp hn
      have hv : hexValue? (Nat.digitChar (number % 16)) = some (number % 16) :=
        hexValue?_digitChar (Nat.mod_lt number (by decide))
      obtain ⟨front, written⟩ := ih (number / 16) (by omega)
      rw [Nat.toDigits_of_base_le (by decide) hb]
      refine ⟨fun char member => ?_, ?_⟩
      · rcases List.mem_append.mp member with member | member
        · exact front char member
        · rw [List.mem_singleton.mp member, isHex, hv]
          rfl
      · rw [hexNumber] at written
        simp only [hexNumber, List.foldl_append, written, List.foldl_cons, List.foldl_nil, hv,
          Option.getD_some]
        omega

/-- The digits of a group in characters. -/
def groupChars (group : UInt16) : List Char := Nat.toDigits 16 group.toNat

/-- The text of a group consists of its digits. -/
theorem toList_groupText (group : UInt16) : (groupText group).toList = groupChars group :=
  String.toList_ofList

/-- They are hexadecimal digits. -/
theorem isHex_of_mem {group : UInt16} : ∀ char ∈ groupChars group, isHex char = true :=
  (hex_toDigits group.toNat).1

/-- There are one to four of them. -/
theorem groupChars_length (group : UInt16) :
    groupChars group ≠ [] ∧ (groupChars group).length ≤ 4 :=
  ⟨Nat.toDigits_ne_nil, (Nat.length_toDigits_le_iff (by decide) (by decide)).mpr group.toNat_lt⟩

/-- A group is read back from its digits. -/
theorem takeGroup_groupChars (group : UInt16) {rest : List Char}
    (stop : StartsOutside isHex rest) :
    takeGroup (groupChars group ++ rest) = some (group, rest) := by
  obtain ⟨present, short⟩ := groupChars_length group
  have hw : hexNumber (groupChars group) = group.toNat := (hex_toDigits group.toNat).2
  rw [takeGroup, stop.takeWhile_eq isHex_of_mem]
  simp only [present, Nat.not_lt.mpr short, or_self, if_false, hw, UInt16.ofNat_toNat,
    List.drop_left]

/-! ## Where groups end -/

/-- Whether a character can stand in a group or a dotted form. -/
def continues (char : Char) : Bool := isHex char || char = '.'

/-- Neither a group nor a dotted form goes on here. -/
def Halts (chars : List Char) : Prop := StartsOutside continues chars

/-- What begins with a character of no group and no dotted form. -/
theorem halts_cons {char : Char} (h : continues char = false) (rest : List Char) :
    Halts (char :: rest) := startsOutside_cons h rest

/-- A colon ends a group. -/
theorem halts_colon (rest : List Char) : Halts (':' :: rest) := halts_cons (by decide) rest

/-- No group goes on where none and no dotted form does. -/
theorem Halts.outside_hex {chars : List Char} (h : Halts chars) : StartsOutside isHex chars :=
  fun char rest same => (Bool.or_eq_false_iff.mp (h char rest same)).1

/-- A decimal digit is a hexadecimal one. -/
theorem isHex_of_isDigit {char : Char} (h : char.isDigit = true) : isHex char = true := by
  simp only [Char.isDigit, Bool.and_eq_true, decide_eq_true_eq] at h
  have hv : 48 ≤ char.toNat ∧ char.toNat ≤ 57 := h
  rw [isHex, hexValue?]
  simp only [if_pos hv, Option.isSome_some]

/-- Nor does a number. -/
theorem Halts.outside_digit {chars : List Char} (h : Halts chars) :
    StartsOutside Char.isDigit chars := by
  intro char rest same
  cases hd : char.isDigit with
  | false => rfl
  | true =>
    exact absurd (isHex_of_isDigit hd) (ne_true_of_eq_false (h.outside_hex char rest same))

/-- There is no point where a group ends. -/
theorem Halts.head_ne_point {chars : List Char} (h : Halts chars) : chars.head? ≠ some '.' := by
  intro same
  obtain ⟨rest, rfl⟩ := List.head?_eq_some_iff.mp same
  exact absurd (h '.' rest rfl) (by decide)

/-- There is no group where one ends. -/
theorem Halts.takeGroup_eq_none {chars : List Char} (h : Halts chars) : takeGroup chars = none := by
  rw [takeGroup, h.outside_hex.takeWhile_eq_nil]
  simp only [true_or, if_true]

/-- Nor is there a dotted form. -/
theorem Halts.takes_nothing {chars : List Char} (h : Halts chars) :
    takeIpv4 chars = none ∧ takeGroup chars = none := by
  refine ⟨takeIpv4_eq_none ?_, h.takeGroup_eq_none⟩
  rw [h.outside_digit.dropWhile_eq_self]
  exact h.head_ne_point

/-- A dotted form begins with more than the digits of a group. -/
theorem takeIpv4_of_group {front more : List Char} (digits : ∀ char ∈ front, isHex char = true)
    (h : Halts more) : takeIpv4 (front ++ more) = none := by
  refine takeIpv4_eq_none ?_
  rw [List.dropWhile_append]
  by_cases he : (front.dropWhile Char.isDigit).isEmpty = true
  · rw [if_pos he, h.outside_digit.dropWhile_eq_self]
    exact h.head_ne_point
  · rw [if_neg he]
    cases hc : front.dropWhile Char.isDigit with
    | nil => exact absurd (List.isEmpty_iff.mpr hc) he
    | cons char rest =>
      rintro ⟨⟩
      have hm : '.' ∈ front := (List.dropWhile_subset Char.isDigit) (hc ▸ List.mem_cons_self)
      exact absurd (digits '.' hm) (by decide)

/-- What ends a run of groups: nothing of a group is in front, nor behind a colon in front. -/
structure EndsRun (rest : List Char) : Prop where
  /-- Nothing of a group is in front. -/
  halts : Halts rest
  /-- Nothing of a group is behind a colon in front. -/
  behind : ∀ after, rest = ':' :: after → Halts after

/-- A character of no group that is no colon ends a run of groups. -/
theorem endsRun_cons {char : Char} (h : continues char = false) (other : char ≠ ':')
    (rest : List Char) : EndsRun (char :: rest) :=
  ⟨halts_cons h rest, fun _ same => absurd (List.cons.inj same).1 other⟩

/-- So do two colons. -/
theorem endsRun_colons (rest : List Char) : EndsRun (':' :: ':' :: rest) := by
  refine ⟨halts_colon _, ?_⟩
  rintro _ ⟨⟩
  exact halts_colon rest

/-! ## Several groups -/

/-- The digits of groups, with a colon in front of each. -/
def led (groups : List UInt16) : List Char := groups.flatMap fun group => ':' :: groupChars group

/-- The first of them has its colon and its digits in front. -/
theorem led_cons (group : UInt16) (groups : List UInt16) :
    led (group :: groups) = ':' :: (groupChars group ++ led groups) := List.flatMap_cons

/-- Groups are written as the digits of the first, and those of the others with a colon in front
of each. -/
theorem toList_groupsText_cons (group : UInt16) (groups : List UInt16) :
    (groupsText (group :: groups)).toList = groupChars group ++ led groups := by
  have hc : (":").toList = [':'] := rfl
  induction groups generalizing group with
  | nil =>
    rw [groupsText, String.toList_intercalate, led, List.flatMap_nil, List.append_nil,
      ← toList_groupText]
    exact List.intercalate_singleton
  | cons next groups ih =>
    have hn := ih next
    rw [groupsText, String.toList_intercalate, hc] at hn ⊢
    simp only [List.map_cons, List.intercalate_cons_cons] at hn ⊢
    rw [hn, toList_groupText, led_cons, List.append_assoc, List.singleton_append]

/-- A run does not go on where it ends. -/
theorem takeGroups_of_end {rest : List Char} (h : EndsRun rest) (room : Nat) (started : Bool) :
    takeGroups room started rest = (⟨[], false⟩, rest) := by
  cases room with
  | zero => rfl
  | succ room =>
    cases started with
    | false =>
      obtain ⟨hd, hg⟩ := h.halts.takes_nothing
      simp only [takeGroups, Bool.false_eq_true, if_false, hd, ite_self, hg]
    | true =>
      cases hc : takeChar ':' rest with
      | none => simp only [takeGroups, if_true, hc]
      | some after =>
        obtain ⟨hd, hg⟩ := (h.behind after (eq_of_takeChar hc)).takes_nothing
        simp only [takeGroups, if_true, hc, hd, ite_self, hg]

/-- What stands in front of a group: a colon when another came before. -/
def lead (started : Bool) : List Char := if started then [':'] else []

/-- A colon is in front when another group came before. -/
theorem lead_true (chars : List Char) : lead true ++ chars = ':' :: chars := rfl

/-- Nothing is in front of the first group. -/
theorem lead_false (chars : List Char) : lead false ++ chars = chars := rfl

/-- A group in front is taken, and the run goes on behind it. -/
theorem takeGroups_group {more : List Char} (h : Halts more) (room : Nat) (started : Bool)
    (group : UInt16) :
    takeGroups (room + 1) started (lead started ++ (groupChars group ++ more)) =
      (⟨group :: (takeGroups room true more).1.groups, (takeGroups room true more).1.endsOlder⟩,
        (takeGroups room true more).2) := by
  have hd : takeIpv4 (groupChars group ++ more) = none := takeIpv4_of_group isHex_of_mem h
  have hg := takeGroup_groupChars group h.outside_hex
  cases started with
  | false =>
    simp only [takeGroups, lead_false, Bool.false_eq_true, if_false, hd, ite_self, hg]
  | true => simp only [takeGroups, lead_true, if_true, takeChar_cons, hd, ite_self, hg]

/-- An older address in front is taken, and ends the run. -/
theorem takeGroups_older {rest : List Char} (h : Halts rest) (room : Nat) (started : Bool)
    (older : Ipv4) :
    takeGroups (room + 2) started (lead started ++ (older.text.toList ++ rest)) =
      (⟨older.groups, true⟩, rest) := by
  have hd := takeIpv4_text older h.outside_digit
  have hr : 1 ≤ room + 1 := Nat.le_add_left 1 room
  cases started with
  | false =>
    simp only [takeGroups, lead_false, Bool.false_eq_true, if_false, if_pos hr, hd]
  | true => simp only [takeGroups, lead_true, if_true, takeChar_cons, if_pos hr, hd]

/-- Groups with a colon in front of each end what stands before them. -/
theorem halts_led {rest : List Char} (h : Halts rest) (groups : List UInt16) :
    Halts (led groups ++ rest) := by
  cases groups with
  | nil => exact h
  | cons group groups => exact halts_colon _

/-- Groups with a colon in front of each are taken where there is room for them. -/
theorem takeGroups_led {rest : List Char} (h : EndsRun rest) {groups : List UInt16} {room : Nat}
    (fits : groups.length ≤ room) :
    takeGroups room true (led groups ++ rest) = (⟨groups, false⟩, rest) := by
  induction groups generalizing room with
  | nil => exact takeGroups_of_end h room true
  | cons group groups ih =>
    cases room with
    | zero => exact absurd fits (Nat.not_succ_le_zero _)
    | succ room =>
      have hl : led (group :: groups) ++ rest =
          lead true ++ (groupChars group ++ (led groups ++ rest)) := by
        rw [led_cons, List.cons_append, List.append_assoc, lead_true]
      rw [hl, takeGroups_group (halts_led h.halts groups), ih (Nat.le_of_succ_le_succ fits)]

/-- Groups with colons between them are taken where there is room for them. -/
theorem takeGroups_groupsText {rest : List Char} (h : EndsRun rest) {groups : List UInt16}
    {room : Nat} (fits : groups.length ≤ room) :
    takeGroups room false ((groupsText groups).toList ++ rest) = (⟨groups, false⟩, rest) := by
  cases groups with
  | nil => exact takeGroups_of_end h room false
  | cons group groups =>
    cases room with
    | zero => exact absurd fits (Nat.not_succ_le_zero _)
    | succ room =>
      have hl : (groupsText (group :: groups)).toList ++ rest =
          lead false ++ (groupChars group ++ (led groups ++ rest)) := by
        rw [toList_groupsText_cons, List.append_assoc, lead_false]
      rw [hl, takeGroups_group (halts_led h.halts groups),
        takeGroups_led h (Nat.le_of_succ_le_succ fits)]

end MediaGateway.Net
