import Mathlib.Data.List.Nodup
import MediaGateway.Settings.Key

/-!
# Written values

What the name of a variable denotes and what its value must be like. The names of settings differ,
so a name in small letters denotes one setting at most. A number is written by decimal digits with
a plus sign in front of them or without, and is below the bound of its kind; a truth value and a
log format are written by one word each. Reading takes what is written in this way and nothing
else.
-/

namespace MediaGateway

namespace Text

/-- Digits, at least one, and the number that they write. -/
structure IsNumeral (digits : List Char) (number : Nat) : Prop where
  /-- There is something to read. -/
  present : digits ≠ []
  /-- All of it is decimal digits. -/
  decimal : ∀ digit ∈ digits, digit.isDigit
  /-- The digits have their places from the right. -/
  value : Nat.ofDigitChars 10 digits 0 = number

/-- The characters that have a value are the decimal digits. -/
theorem digitValue?_of_digit {char : Char} (h : char.isDigit) :
    digitValue? char = some (char.toNat - '0'.toNat) := by
  simp only [Char.isDigit, Bool.and_eq_true, decide_eq_true_eq] at h
  exact if_pos h

/-- No other character has one. -/
theorem digitValue?_of_not_digit {char : Char} (h : ¬ char.isDigit) : digitValue? char = none := by
  simp only [Char.isDigit, Bool.and_eq_true, decide_eq_true_eq] at h
  exact if_neg h

/-- Further digits make no number smaller. -/
theorem le_ofDigitChars (digits : List Char) (value : Nat) :
    value ≤ Nat.ofDigitChars 10 digits value := by
  rw [Nat.ofDigitChars_eq_ofDigitChars_zero]
  have hp : 0 < Nat.pow 10 digits.length := Nat.pow_pos (by omega)
  have hm : value ≤ Nat.pow 10 digits.length * value := Nat.le_mul_of_pos_left value hp
  exact Nat.le_trans hm (Nat.le_add_right _ _)

/-- Digits are read to the end exactly when all of them are digits and the number stays below the
bound. It does so on the way when it does so at the end. -/
theorem readDigits_ok_iff {bound value number : Nat} {digits : List Char} (h : value < bound) :
    readDigits bound value digits = .ok number ↔
      (∀ digit ∈ digits, digit.isDigit) ∧ Nat.ofDigitChars 10 digits value = number ∧
        number < bound := by
  induction digits generalizing value with
  | nil =>
    constructor
    · rintro ⟨⟩
      exact ⟨nofun, rfl, h⟩
    · rintro ⟨-, rfl, -⟩
      rfl
  | cons char rest ih =>
    by_cases hd : char.isDigit
    · have hv := digitValue?_of_digit hd
      have ho : Nat.ofDigitChars 10 (char :: rest) value =
          Nat.ofDigitChars 10 rest (value * 10 + (char.toNat - '0'.toNat)) := by
        rw [Nat.ofDigitChars_cons, Nat.mul_comm]
      simp only [readDigits, hv, ho, List.forall_mem_cons, hd, true_and]
      split
      · next hb => exact ih hb
      · next hb =>
        have hl := le_ofDigitChars rest (value * 10 + (char.toNat - '0'.toNat))
        constructor
        · nofun
        · rintro ⟨-, he, hn⟩
          omega
    · have hv := digitValue?_of_not_digit hd
      simp [readDigits, hv, hd]

/-- A number is read from digits with a plus sign in front of them or without, when it is below
the bound, and from nothing else. -/
theorem readNatural_ok_iff {bound number : Nat} {chars : List Char} (h : 0 < bound) :
    readNatural bound chars = .ok number ↔
      ∃ digits, (chars = digits ∨ chars = '+' :: digits) ∧ IsNumeral digits number ∧
        number < bound := by
  have hplus : ('+' : Char).isDigit = false := by decide
  have hread : ∀ digits, digits ≠ [] → (readDigits bound 0 digits = .ok number ↔
      IsNumeral digits number ∧ number < bound) := by
    intro digits hne
    rw [readDigits_ok_iff h]
    exact ⟨fun ⟨hd, hv, hb⟩ => ⟨⟨hne, hd, hv⟩, hb⟩, fun ⟨hn, hb⟩ => ⟨hn.decimal, hn.value, hb⟩⟩
  have hsigned : ∀ digits, ¬ IsNumeral ('+' :: digits) number := by
    intro digits hn
    have hd := hn.decimal '+' List.mem_cons_self
    simp [hplus] at hd
  rw [readNatural.eq_def]
  split
  · constructor
    · nofun
    · rintro ⟨digits, rfl | he, hn, -⟩
      · exact absurd rfl hn.present
      · cases he
  · constructor
    · nofun
    · rintro ⟨digits, rfl | he, hn, -⟩
      · exact absurd hn (hsigned [])
      · cases he
        exact absurd rfl hn.present
  · next digits hne =>
    have hd : digits ≠ [] := hne
    rw [hread digits hd]
    constructor
    · exact fun ⟨hn, hb⟩ => ⟨digits, .inr rfl, hn, hb⟩
    · rintro ⟨others, rfl | he, hn, hb⟩
      · exact absurd hn (hsigned digits)
      · cases he
        exact ⟨hn, hb⟩
  · next hne hno hplain =>
    rw [hread chars hne]
    constructor
    · exact fun ⟨hn, hb⟩ => ⟨chars, .inl rfl, hn, hb⟩
    · rintro ⟨digits, rfl | rfl, hn, hb⟩
      · exact ⟨hn, hb⟩
      · exact absurd rfl (hplain digits)

end Text

namespace Settings

/-- The name of a variable denotes a setting when its small form is the setting's name. -/
def Names (given : String) (key : Key) : Prop := Text.lowercase given = key.name

namespace Key

/-- Every setting is in the list. -/
theorem mem_all (key : Key) : key ∈ all := by
  cases key <;> decide

/-- No two settings have the same name. -/
theorem name_injective {key other : Key} (h : key.name = other.name) : key = other := by
  have hn : (all.map name).Nodup := by decide +kernel
  exact List.inj_on_of_nodup_map hn (mem_all key) (mem_all other) h

/-- A variable's name denotes the setting that is found for it. -/
theorem ofVariable?_eq_some_iff {given : String} {key : Key} :
    ofVariable? given = some key ↔ Names given key := by
  have hfound : ∀ {found}, ofVariable? given = some found → Names given found := by
    intro found h
    have hn := List.find?_some h
    exact (of_decide_eq_true hn).symm
  refine ⟨hfound, fun h => ?_⟩
  cases hf : ofVariable? given with
  | none =>
    have hn := List.find?_eq_none.mp hf key (mem_all key)
    exact absurd (decide_eq_true h.symm) hn
  | some found => rw [name_injective ((hfound hf).symm.trans h)]

/-- No setting is found for a variable exactly when its name denotes none. -/
theorem ofVariable?_eq_none_iff {given : String} :
    ofVariable? given = none ↔ ∀ key, ¬ Names given key := by
  rw [Option.eq_none_iff_forall_ne_some]
  exact forall_congr' fun key => not_congr ofVariable?_eq_some_iff

end Key

/-- One name denotes no two settings. -/
theorem Names.unique {given : String} {key other : Key} (h : Names given key)
    (ho : Names given other) : key = other :=
  Key.name_injective (Eq.trans (Eq.symm h) ho)

/-- What a text has to be to write a value of a kind. -/
inductive Writes : Key.Kind → String → Value → Prop where
  /-- Every text writes itself. -/
  | text (content : String) : Writes .text content (.text content)
  /-- Digits write a number below the bound. -/
  | plain {bits number : Nat} {content : String} (h : Text.IsNumeral content.toList number)
      (fits : number < Nat.pow 2 bits) : Writes (.number bits) content (.number number)
  /-- So they do behind a plus sign. -/
  | signed {bits number : Nat} {content : String} {digits : List Char}
      (sign : content.toList = '+' :: digits) (h : Text.IsNumeral digits number)
      (fits : number < Nat.pow 2 bits) : Writes (.number bits) content (.number number)
  /-- The word for yes. -/
  | yes : Writes .flag "true" (.flag true)
  /-- The word for no. -/
  | no : Writes .flag "false" (.flag false)
  /-- Each log format has its word. -/
  | format (format : LogFormat) : Writes .format format.word (.format format)

/-- Whether a value is one of a kind. -/
def Value.IsOf : Key.Kind → Value → Prop
  | .text, .text _ => True
  | .number bits, .number content => content < Nat.pow 2 bits
  | .flag, .flag _ => True
  | .format, .format _ => True
  | _, _ => False

/-- What a text writes is of the kind that it is read for. -/
theorem Writes.isOf {kind : Key.Kind} {content : String} {value : Value}
    (h : Writes kind content value) : value.IsOf kind := by
  cases h with
  | plain _ fits => exact fits
  | signed _ _ fits => exact fits
  | _ => trivial

/-- The values that are read are those that are written. -/
theorem read_ok_iff {kind : Key.Kind} {content : String} {value : Value} :
    Value.read kind content = .ok value ↔ Writes kind content value := by
  cases kind with
  | text =>
    constructor
    · rintro ⟨⟩
      exact .text content
    · rintro ⟨⟩
      rfl
  | number bits =>
    have hp : 0 < Nat.pow 2 bits := Nat.pow_pos (by omega)
    have hread : ∀ number, Value.read (.number bits) content = .ok (.number number) ↔
        Text.readNatural (Nat.pow 2 bits) content.toList = .ok number := by
      intro number
      rw [Value.read]
      cases Text.readNatural (Nat.pow 2 bits) content.toList <;> simp
    constructor
    · intro h
      have hv : ∃ number, value = .number number := by
        rw [Value.read] at h
        cases hn : Text.readNatural (Nat.pow 2 bits) content.toList with
        | error problem =>
          rw [hn] at h
          cases h
        | ok number =>
          rw [hn] at h
          exact ⟨number, (Except.ok.inj h).symm⟩
      obtain ⟨number, rfl⟩ := hv
      obtain ⟨digits, he | he, hn, fits⟩ :=
        (Text.readNatural_ok_iff hp).mp ((hread number).mp h)
      · exact .plain (he ▸ hn) fits
      · exact .signed he hn fits
    · intro h
      cases h with
      | plain hn fits =>
        exact (hread _).mpr ((Text.readNatural_ok_iff hp).mpr ⟨_, .inl rfl, hn, fits⟩)
      | signed sign hn fits =>
        exact (hread _).mpr ((Text.readNatural_ok_iff hp).mpr ⟨_, .inr sign, hn, fits⟩)
  | flag =>
    rw [Value.read]
    constructor
    · intro h
      split at h
      · next he =>
        cases h
        exact he ▸ .yes
      · split at h
        · next he =>
          cases h
          exact he ▸ .no
        · cases h
    · rintro (_ | _) <;> rfl
  | format =>
    rw [Value.read]
    constructor
    · intro h
      split at h
      · next he =>
        cases h
        exact he ▸ .format .json
      · split at h
        · next he =>
          cases h
          exact he ▸ .format .console
        · cases h
    · rintro (_ | _)
      next format => cases format <;> rfl

/-- A text that cannot be read writes no value, and any other writes one. -/
theorem read_error_iff {kind : Key.Kind} {content : String} :
    (∃ reason, Value.read kind content = .error reason) ↔ ∀ value, ¬ Writes kind content value := by
  simp only [← read_ok_iff]
  cases Value.read kind content <;> simp

end Settings

end MediaGateway
