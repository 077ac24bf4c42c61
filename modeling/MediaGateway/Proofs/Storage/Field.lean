import MediaGateway.Proofs.Json.Legible
import MediaGateway.Storage.Answers

/-!
# What a record says in its fields

A field of a record is known by its names, may stand there once, and holds nothing or
a value of its type. What it says is what that value means, or a blank where there is
none; and this is what is read for it.
-/

namespace MediaGateway.Storage

open Json (Written Numeral Stands IsText)
open TextMap (IsLast)

/-! ## What a record says -/

/-- The entries of a record with what their names stand for. -/
def Named (entries : List (Bytes × Written)) (named : List (String × Written)) : Prop :=
  List.Forall₂ (fun entry name => Stands entry.1 name.1.toList ∧ entry.2 = name.2) entries named

/-- A string. -/
def IsQuoted (written : Written) : Prop := ∃ inside, written = .quoted inside

/-- A whole number between a bound and its negation. -/
def IsInteger (bound : Int) (written : Written) : Prop :=
  ∃ numeral value, written = .numeral numeral ∧ numeral.Writes value ∧
    -bound ≤ value ∧ value < bound

/-- A list of strings. -/
def IsTexts (written : Written) : Prop :=
  ∃ items, written = .list items ∧ ∀ item ∈ items, IsQuoted item

/-- A record. -/
def IsRecord (written : Written) : Prop := ∃ entries, written = .record entries

/-- A field stands in a record at most once, under one of its names, and holds nothing or a value
that it may have. -/
def Fits (named : List (String × Written)) (names : List String) (Admits : Written → Prop) : Prop :=
  (named.filter fun entry => entry.1 ∈ names).length ≤ 1 ∧
    ∀ entry ∈ named, entry.1 ∈ names → entry.2 = .null ∨ Admits entry.2

/-! ## What the fields mean -/

/-- The text of a string. -/
def MeansText (written : Written) (text : String) : Prop :=
  ∃ inside, written = .quoted inside ∧ Stands inside text.toList

/-- The value of a whole number. -/
def MeansInteger {α : Type} (toInt : α → Int) (written : Written) (value : α) : Prop :=
  ∃ numeral, written = .numeral numeral ∧ numeral.Writes (toInt value)

/-- The texts of a list of strings. -/
def MeansTexts (written : Written) (texts : List String) : Prop :=
  ∃ items, written = .list items ∧ List.Forall₂ MeansText items texts

/-- The text of a further fact: a string as it stands, and anything else in the compact form of its
value, which is well-formed and means the same value where all its numbers are whole. -/
inductive IsFact : Written → String → Prop where
  /-- A string. -/
  | text {inside : Bytes} {text : String} (stands : Stands inside text.toList) :
    IsFact (.quoted inside) text
  /-- Anything else. -/
  | other {written : Written} {value : Json.Value} (noText : ∀ inside, written ≠ .quoted inside)
    (means : written.value? Json.deepest = some value)
    (wellFormed : ∃ again : Written, again.SpelledBy (Bytes.ofText value.compact))
    (back : ¬Json.HasReal value → Json.Value.read? (Bytes.ofText value.compact) = some value) :
    IsFact written value.compact

/-- The further facts of a record: under each name the one that stands last. -/
def MeansFacts (written : Written) (facts : TextMap) : Prop :=
  ∃ entries named, written = .record entries ∧ Named entries named ∧
    ∀ name text, (name, text) ∈ facts.entries ↔
      ∃ value, IsLast name named value ∧ IsFact value text

/-- What a record says in a field: what its value means, or the blank when there is none. -/
def Field {α : Type} (named : List (String × Written)) (names : List String)
    (Means : Written → α → Prop) (blank value : α) : Prop :=
  (∃ entry ∈ named, entry.1 ∈ names ∧ entry.2 ≠ .null ∧ Means entry.2 value) ∨
    ((∀ entry ∈ named, entry.1 ∈ names → entry.2 = .null) ∧ value = blank)

/-! ## Reading a field -/

/-- What is read for a field of a record, given what is read of its value. -/
def ReadsField {α : Type} (named : List (String × Written)) (names : List String)
    (read : Option Written → Option α) (value : α) : Prop :=
  ∃ field, Json.fieldOf? named names = some field ∧ read field = some value

/-- A reader of values that may stand in a field: it reads those that are admitted, and others not
at all, and reads them as what they mean. -/
structure IsRead {α : Type} (room : Nat) (Admits : Written → Prop) (Means : Written → α → Prop)
    (blank : α) (read : Option Written → Option α) : Prop where
  /-- Nothing is read as the blank. -/
  absent : read none = some blank
  /-- Nothing else than what is admitted is read. -/
  admits : ∀ written : Written, ∀ value, read (some written) = some value → Admits written
  /-- What is admitted and readable is read. -/
  reads : ∀ written : Written, written.Readable room → Admits written →
    ∃ value, read (some written) = some value
  /-- What is legible and read means what is read. -/
  means : ∀ written : Written, ∀ value, written.Legible → read (some written) = some value →
    Means written value

/-- What stands in a record under some names: nothing, one value, or several. -/
theorem fieldOf_cases (named : List (String × Written)) (names : List String) :
    ((∀ entry ∈ named, entry.1 ∉ names) ∧ Json.fieldOf? named names = some none) ∨
    (∃ entry ∈ named, entry.1 ∈ names ∧ (∀ other ∈ named, other.1 ∈ names → other = entry) ∧
      (named.filter fun entry => entry.1 ∈ names).length = 1 ∧
      Json.fieldOf? named names = some (Json.present entry.2)) ∨
    (1 < (named.filter fun entry => entry.1 ∈ names).length ∧
      Json.fieldOf? named names = none) := by
  have hf : (named.filter fun entry => names.contains entry.1) =
      named.filter fun entry => entry.1 ∈ names := by
    simp only [List.contains_eq_mem]
  have hm : ∀ entry, entry ∈ named.filter (fun entry => entry.1 ∈ names) ↔
      entry ∈ named ∧ entry.1 ∈ names := by
    intro entry
    rw [List.mem_filter, decide_eq_true_eq]
  rw [Json.fieldOf?, hf]
  generalize named.filter (fun entry => entry.1 ∈ names) = found at hm
  cases found with
  | nil => exact .inl ⟨fun entry member hn => absurd ((hm entry).mpr ⟨member, hn⟩) List.not_mem_nil,
      rfl⟩
  | cons entry found =>
    cases found with
    | nil =>
      obtain ⟨member, hn⟩ := (hm entry).mp List.mem_cons_self
      exact .inr (.inl ⟨entry, member, hn, fun other ho hk =>
        List.mem_singleton.mp ((hm other).mpr ⟨ho, hk⟩), rfl, rfl⟩)
    | cons other found =>
      refine .inr (.inr ⟨?_, rfl⟩)
      simp only [List.length_cons]
      omega

/-- A value that is not null is present. -/
theorem present_cases (written : Written) :
    (written = .null ∧ Json.present written = none) ∨
      (written ≠ .null ∧ Json.present written = some written) := by
  cases written with
  | null => exact .inl ⟨rfl, rfl⟩
  | flag content => exact .inr ⟨Written.noConfusion, rfl⟩
  | numeral content => exact .inr ⟨Written.noConfusion, rfl⟩
  | quoted inside => exact .inr ⟨Written.noConfusion, rfl⟩
  | list items => exact .inr ⟨Written.noConfusion, rfl⟩
  | record entries => exact .inr ⟨Written.noConfusion, rfl⟩

section Fields

variable {α : Type} {room : Nat} {Admits : Written → Prop} {Means : Written → α → Prop} {blank : α}
  {read : Option Written → Option α} {named : List (String × Written)}

/-- A field that is read fits. -/
theorem fits_of_readsField (reader : IsRead room Admits Means blank read) {names : List String}
    {value : α} (h : ReadsField named names read value) : Fits named names Admits := by
  obtain ⟨field, ho, hr⟩ := h
  rcases fieldOf_cases named names with ⟨hn, _⟩ | ⟨entry, _, _, unique, hl, hf⟩ | ⟨_, hf⟩
  · have he : (named.filter fun entry => decide (entry.1 ∈ names)) = [] := by
      rw [List.filter_eq_nil_iff]
      exact fun entry he => by simpa using hn entry he
    refine ⟨?_, fun entry he hk => absurd hk (hn entry he)⟩
    rw [he]
    exact Nat.zero_le 1
  · refine ⟨Nat.le_of_eq hl, fun other member hk => ?_⟩
    rw [unique other member hk]
    rcases present_cases entry.2 with ⟨hz, _⟩ | ⟨_, hp⟩
    · exact .inl hz
    · obtain rfl : some entry.2 = field := Option.some.inj ((hp ▸ hf).symm.trans ho)
      exact .inr (reader.admits _ _ hr)
  · cases hf.symm.trans ho

/-- A field is read exactly when it fits. -/
theorem exists_readsField_iff (reader : IsRead room Admits Means blank read)
    (readable : ∀ entry ∈ named, entry.2.Readable room) (names : List String) :
    (∃ value, ReadsField named names read value) ↔ Fits named names Admits := by
  refine ⟨fun ⟨_, h⟩ => fits_of_readsField reader h, fun fits => ?_⟩
  rcases fieldOf_cases named names with ⟨_, hf⟩ | ⟨entry, member, hk, _, _, hf⟩ | ⟨hl, _⟩
  · exact ⟨blank, none, hf, reader.absent⟩
  · rcases present_cases entry.2 with ⟨_, hp⟩ | ⟨hz, hp⟩
    · exact ⟨blank, none, hp ▸ hf, reader.absent⟩
    · obtain ⟨value, hr⟩ := reader.reads _ (readable entry member)
        ((fits.2 entry member hk).resolve_left hz)
      exact ⟨value, some entry.2, hp ▸ hf, hr⟩
  · exact absurd fits.1 (Nat.not_le.mpr hl)

/-- What is read for a field is what the record says there. -/
theorem field_of_readsField (reader : IsRead room Admits Means blank read)
    (legible : ∀ entry ∈ named, entry.2.Legible) {names : List String} {value : α}
    (h : ReadsField named names read value) : Field named names Means blank value := by
  obtain ⟨field, ho, hr⟩ := h
  rcases fieldOf_cases named names with ⟨hn, hf⟩ | ⟨entry, member, hk, unique, _, hf⟩ | ⟨_, hf⟩
  · obtain rfl : none = field := Option.some.inj (hf.symm.trans ho)
    exact .inr ⟨fun entry he hk => absurd hk (hn entry he),
      Option.some.inj (hr.symm.trans reader.absent)⟩
  · rcases present_cases entry.2 with ⟨hz, hp⟩ | ⟨hz, hp⟩
    · obtain rfl : none = field := Option.some.inj ((hp ▸ hf).symm.trans ho)
      refine .inr ⟨fun other he hk => ?_, Option.some.inj (hr.symm.trans reader.absent)⟩
      rw [unique other he hk, hz]
    · obtain rfl : some entry.2 = field := Option.some.inj ((hp ▸ hf).symm.trans ho)
      exact .inl ⟨entry, member, hk, hz, reader.means _ _ (legible entry member) hr⟩
  · cases hf.symm.trans ho

end Fields

/-! ## The readers -/

/-- A string is read as its text. -/
theorem text_of_readable {room : Nat} {inside : Bytes}
    (h : (Written.quoted inside).Readable room) : IsText inside := by
  cases room <;> exact h

/-- A legible string is read as the text that it means. -/
theorem meansText_of_text {written : Written} (legible : written.Legible) {text : String}
    (h : written.text? = some text) : MeansText written text := by
  cases written with
  | quoted inside => exact ⟨inside, rfl, legible.isText h⟩
  | _ => cases h

/-- Strings are read. -/
theorem isRead_text (room : Nat) : IsRead room IsQuoted MeansText "" textField := by
  have hr : ∀ written : Written, ∀ value, textField (some written) = some value →
      written.text? = some value := by
    intro written value h
    obtain ⟨found, hf, hv⟩ := Option.map_eq_some_iff.mp h
    obtain ⟨text, ht, rfl⟩ := Option.map_eq_some_iff.mp hf
    rw [ht, ← hv, Option.getD_some]
  refine ⟨rfl, fun written value h => ?_, ?_, fun written value legible h =>
    meansText_of_text legible (hr written value h)⟩
  · have ht := hr written value h
    cases written with
    | quoted inside => exact ⟨inside, rfl⟩
    | _ => cases ht
  · rintro written readable ⟨inside, rfl⟩
    obtain ⟨text, _, ht⟩ := Json.unquoted_of_isText (text_of_readable readable)
    exact ⟨text, by simp only [textField, Json.optional?, Written.text?, ht, Option.map_some,
      Option.getD_some]⟩

/-- A whole number in range is read, and nothing else is. -/
theorem integer_eq_some_iff {bound : Int} (fits : bound ≤ 9223372036854775808) {written : Written}
    {value : Int} : written.integer? (-bound) bound = some value ↔
      ∃ numeral, written = .numeral numeral ∧ numeral.Writes value ∧
        -bound ≤ value ∧ value < bound := by
  have hl : Nat.pow 2 63 = 9223372036854775808 := rfl
  have hu : Nat.pow 2 64 = 18446744073709551616 := rfl
  cases written with
  | numeral content =>
    rw [Written.integer?, Option.bind_eq_some_iff]
    constructor
    · rintro ⟨found, hf, hr⟩
      split at hr
      next hb =>
        obtain rfl := Option.some.inj hr
        exact ⟨content, rfl, (Json.integer_eq_some_iff.mp hf).1, hb⟩
      · cases hr
    · rintro ⟨numeral, he, written, hb⟩
      obtain rfl := Written.numeral.inj he
      refine ⟨value, Json.integer_eq_some_iff.mpr ⟨written, ?_, ?_⟩, if_pos hb⟩
      · omega
      · omega
  | _ =>
    refine iff_of_false (fun h => by cases h) ?_
    rintro ⟨numeral, he, _⟩
    cases he

/-- Whole numbers are read whose range comes back from the type that they are kept in. -/
theorem isRead_integer {α : Type} {bound : Int} (fits : bound ≤ 9223372036854775808)
    {ofInt : Int → α} {toInt : α → Int}
    (back : ∀ value, -bound ≤ value → value < bound → toInt (ofInt value) = value) (room : Nat) :
    IsRead room (IsInteger bound) (MeansInteger toInt) (ofInt 0) fun field =>
      (Json.optional? (Written.integer? (-bound) bound) field).map fun value =>
        ofInt (value.getD 0) := by
  have hi : ∀ written : Written, ∀ value,
      ((Json.optional? (Written.integer? (-bound) bound) (some written)).map fun value =>
        ofInt (value.getD 0)) = some value ↔ ∃ whole, ofInt whole = value ∧
          ∃ numeral, written = .numeral numeral ∧ numeral.Writes whole ∧
            -bound ≤ whole ∧ whole < bound := by
    intro written value
    simp only [← integer_eq_some_iff fits, Json.optional?, Option.map_map, Option.map_eq_some_iff,
      Function.comp_apply, Option.getD_some]
    exact exists_congr fun whole => and_comm
  refine ⟨rfl, fun written value h => ?_, ?_, fun written value _ h => ?_⟩
  · obtain ⟨whole, _, numeral, he, hv⟩ := (hi written value).mp h
    exact ⟨numeral, whole, he, hv⟩
  · rintro written _ ⟨numeral, whole, he, hv⟩
    exact ⟨ofInt whole, (hi written _).mpr ⟨whole, rfl, numeral, he, hv⟩⟩
  · obtain ⟨whole, rfl, numeral, he, hw, hl, hu⟩ := (hi written value).mp h
    exact ⟨numeral, he, by rwa [back whole hl hu]⟩

/-- Whole numbers of 64 bits are read. -/
theorem isRead_long (room : Nat) :
    IsRead room (IsInteger (Int.pow 2 63)) (MeansInteger Int64.toInt) 0 longField :=
  isRead_integer (by decide) (fun _ => Int64.toInt_ofInt_of_le) room

/-- Whole numbers of 32 bits are read. -/
theorem isRead_short (room : Nat) :
    IsRead room (IsInteger (Int.pow 2 31)) (MeansInteger Int32.toInt) 0 shortField :=
  isRead_integer (by decide) (fun _ => Int32.toInt_ofInt_of_le) room

/-- Lists of strings are read. -/
theorem isRead_texts (room : Nat) : IsRead room IsTexts MeansTexts [] textsField := by
  have hr : ∀ written : Written, ∀ value, textsField (some written) = some value →
      ∃ items, written = .list items ∧
        List.Forall₂ (fun item text => item.text? = some text) items value := by
    intro written value h
    obtain ⟨found, hf, hv⟩ := Option.map_eq_some_iff.mp h
    obtain ⟨texts, ht, rfl⟩ := Option.map_eq_some_iff.mp hf
    rw [Option.getD_some] at hv
    subst hv
    cases written with
    | list items => exact ⟨items, rfl, mapM_eq_some_iff.mp ht⟩
    | _ => cases ht
  refine ⟨rfl, fun written value h => ?_, ?_, fun written value legible h => ?_⟩
  · obtain ⟨items, rfl, read⟩ := hr written value h
    refine ⟨items, rfl, fun item member => ?_⟩
    obtain ⟨text, _, hi⟩ := exists_of_mem_forall₂ read.flip member
    cases item with
    | quoted inside => exact ⟨inside, rfl⟩
    | _ => cases hi
  · rintro written readable ⟨items, rfl, quoted⟩
    have hi : ∀ item ∈ items, ∃ text, item.text? = some text ∧ True := by
      intro item member
      obtain ⟨inside, rfl⟩ := quoted item member
      have hi : ∃ room, (Written.quoted inside).Readable room := by
        cases room with
        | zero => exact readable.elim
        | succ room => exact ⟨room, readable _ member⟩
      obtain ⟨_, hi⟩ := hi
      obtain ⟨text, _, ht⟩ := Json.unquoted_of_isText (text_of_readable hi)
      exact ⟨text, ht, trivial⟩
    obtain ⟨texts, ht, _⟩ := exists_mapM_forall₂ hi
    exact ⟨texts, by simp only [textsField, Json.optional?, Written.texts?, ht, Option.map_some,
      Option.getD_some]⟩
  · obtain ⟨items, rfl, read⟩ := hr written value h
    cases legible with
    | list each =>
      refine ⟨items, rfl, List.forall₂_iff_get.mpr ⟨read.length_eq, fun place hi ht => ?_⟩⟩
      exact meansText_of_text (each _ (List.get_mem items ⟨place, hi⟩)) (read.get hi ht)

/-- What is no string means no text. -/
theorem value_ne_text {room : Nat} {written : Written} {value : Json.Value}
    (h : written.value? room = some value) (noText : ∀ inside, written ≠ .quoted inside)
    (text : String) : value ≠ .text text := by
  rintro rfl
  cases written with
  | quoted inside => exact noText inside rfl
  | null => rw [Written.value?] at h; cases h
  | flag content => rw [Written.value?] at h; cases h
  | numeral content =>
    rw [Written.value?] at h
    obtain ⟨number, _, he⟩ := Option.map_eq_some_iff.mp h
    cases he
  | list items =>
    cases room with
    | zero => rw [Written.value?] at h; cases h
    | succ room =>
      rw [Written.value?] at h
      obtain ⟨values, _, he⟩ := Option.map_eq_some_iff.mp h
      cases he
  | record entries =>
    cases room with
    | zero => rw [Written.value?] at h; cases h
    | succ room =>
      rw [Json.value_record] at h
      obtain ⟨values, _, he⟩ := Option.map_eq_some_iff.mp h
      cases he

/-- What is kept of a further fact is its text. -/
theorem isFact_of_value {room : Nat} (deep : room ≤ Json.deepest) {written : Written}
    {value : Json.Value} (readable : written.Readable room)
    (h : written.value? room = some value) : IsFact written (factText value) := by
  by_cases hq : IsQuoted written
  · obtain ⟨inside, rfl⟩ := hq
    obtain ⟨text, stands, ht⟩ := Json.unquoted_of_isText (text_of_readable readable)
    rw [Written.value?, ht] at h
    obtain rfl := Option.some.inj h
    exact .text stands
  · have noText : ∀ inside, written ≠ .quoted inside := fun inside he => hq ⟨inside, he⟩
    have hd := Json.value_deepest deep h
    have hc : factText value = value.compact := by
      cases value with
      | text content => exact absurd rfl (value_ne_text h noText content)
      | _ => rfl
    rw [hc]
    exact .other noText hd (Json.exists_spelled_compact value) (Json.read_compact_of_value hd)

/-- A further fact has one text. -/
theorem IsFact.unique {written : Written} {text other : String} (h : IsFact written text)
    (ho : IsFact written other) : text = other := by
  cases h with
  | text stands =>
    cases ho with
    | text again => exact stands.unique again
    | other noText => exact absurd rfl (noText _)
  | other noText means =>
    cases ho with
    | text => exact absurd rfl (noText _)
    | other _ again => rw [Option.some.inj (means.symm.trans again)]

/-- The facts of a record are those of its entries in their own order. -/
theorem facts_ordered (entries : List (String × Json.Value)) :
    facts (Json.ordered entries) =
      TextMap.ofList (entries.map fun entry => (entry.1, factText entry.2)) := by
  rw [facts, Json.ordered_map factText]
  exact TextMap.foldl_insert_perm (List.Perm.refl _)

/-- Under each name the facts of a record have the text of what stands there last. -/
theorem meansFacts_of_values {room : Nat} (deep : room ≤ Json.deepest)
    {entries : List (Bytes × Written)} {values : List (String × Json.Value)}
    (h : List.Forall₂ (fun entry value => Stands entry.1 value.1.toList ∧
      entry.2.Readable room ∧ entry.2.value? room = some value.2) entries values) :
    MeansFacts (.record entries) (facts (Json.ordered values)) := by
  have hb : List.Forall₂ (fun entry value => ∃ name : String × Written,
      (Stands entry.1 name.1.toList ∧ entry.2 = name.2) ∧
        (name.1 = value.1 ∧ IsFact name.2 value.2)) entries
      (values.map fun value => (value.1, factText value.2)) := by
    rw [List.forall₂_map_right_iff]
    refine h.imp fun entry value he => ⟨(value.1, entry.2), ⟨he.1, rfl⟩, rfl, ?_⟩
    exact isFact_of_value deep he.2.1 he.2.2
  obtain ⟨named, hn, hf⟩ := exists_between hb
  refine ⟨entries, named, rfl, hn, fun name text => ?_⟩
  rw [facts_ordered, TextMap.mem_ofList_iff]
  constructor
  · intro last
    have hr : List.Forall₂ (fun fact value => fact.1 = value.1 ∧ flip IsFact fact.2 value.2)
        (values.map fun value => (value.1, factText value.2)) named :=
      hf.flip.imp fun _ _ hi => ⟨hi.1.symm, hi.2⟩
    obtain ⟨value, lastValue, hi⟩ := TextMap.IsLast.forall₂ hr last
    exact ⟨value, lastValue, hi⟩
  · rintro ⟨value, last, hi⟩
    obtain ⟨other, lastOther, ho⟩ := TextMap.IsLast.forall₂ hf last
    rwa [hi.unique ho]

/-- A record of readable values is read, and the last of equal names counts. -/
theorem facts_of_readable {room : Nat} (deep : room ≤ Json.deepest)
    {entries : List (Bytes × Written)} (readable : (Written.record entries).Readable room) :
    ∃ value, factsField room (some (.record entries)) = some value ∧
      MeansFacts (.record entries) value := by
  cases room with
  | zero => exact readable.elim
  | succ room =>
    have hr : ∀ entry ∈ entries, ∃ made, Json.readEntry room entry = some made ∧
        (Stands entry.1 made.1.toList ∧ entry.2.Readable room ∧
          entry.2.value? room = some made.2) := by
      intro entry member
      obtain ⟨named, readable⟩ := readable entry member
      obtain ⟨name, stands, ht⟩ := Json.unquoted_of_isText named
      obtain ⟨value, hv⟩ := Json.exists_value readable
      exact ⟨(name, value), by rw [Json.readEntry, ht, hv]; rfl, stands, readable, hv⟩
    obtain ⟨values, hv, related⟩ := exists_mapM_forall₂ hr
    refine ⟨facts (Json.ordered values), ?_, meansFacts_of_values (by omega) related⟩
    have hw : (Written.record entries).value? (room + 1) = some (.record (Json.ordered values)) := by
      rw [Json.value_record, hv, Option.map_some]
    simp only [factsField, Json.optional?, Written.record?, hw, Option.map_some, Option.getD_some]

/-- Records are read as the facts that they mean. -/
theorem isRead_facts {room : Nat} (deep : room ≤ Json.deepest) :
    IsRead room IsRecord MeansFacts TextMap.empty (factsField room) := by
  have hr : ∀ written : Written, ∀ value, factsField room (some written) = some value →
      ∃ entries, written = .record entries ∧ ∃ made, written.value? room = some made := by
    intro written value h
    obtain ⟨found, hf, _⟩ := Option.map_eq_some_iff.mp h
    obtain ⟨entries, he, _⟩ := Option.map_eq_some_iff.mp hf
    cases written with
    | record entries =>
      refine ⟨entries, rfl, Option.ne_none_iff_exists'.mp fun hv => ?_⟩
      simp only [Written.record?, hv, reduceCtorEq] at he
    | _ => cases he
  refine ⟨rfl, fun written value h => ?_, ?_, fun written value legible h => ?_⟩
  · obtain ⟨entries, he, _⟩ := hr written value h
    exact ⟨entries, he⟩
  · rintro written readable ⟨entries, rfl⟩
    exact (facts_of_readable deep readable).imp fun _ facts => facts.1
  · obtain ⟨entries, rfl, made, hv⟩ := hr written value h
    obtain ⟨other, ho, means⟩ := facts_of_readable deep (Json.readable_of_value legible hv)
    rwa [Option.some.inj (h.symm.trans ho)]

/-! ## Names -/

/-- What names stand for is read. -/
theorem namedEntries_of_named {entries : List (Bytes × Written)} {named : List (String × Written)}
    (h : Named entries named) : Json.namedEntries? entries = some named := by
  rw [Json.namedEntries?, mapM_eq_some_iff]
  refine h.imp fun entry name he => ?_
  rw [Json.unquoted_of_stands he.1, he.2, Option.map_some]

/-- The names that are read from a legible record are what they stand for. -/
theorem named_of_namedEntries {entries : List (Bytes × Written)} {named : List (String × Written)}
    (legible : (Written.record entries).Legible) (h : Json.namedEntries? entries = some named) :
    Named entries named := by
  rw [Json.namedEntries?, mapM_eq_some_iff] at h
  cases legible with
  | record names values =>
    refine List.forall₂_iff_get.mpr ⟨h.length_eq, fun place hi ht => ?_⟩
    obtain ⟨name, hn, he⟩ := Option.map_eq_some_iff.mp (h.get hi ht)
    rw [← he]
    exact ⟨(Json.unquoted_eq_some_iff (names _ (List.get_mem entries ⟨place, hi⟩))).mp hn, rfl⟩

/-- The values of a legible record are legible. -/
theorem legible_of_named {entries : List (Bytes × Written)} {named : List (String × Written)}
    (legible : (Written.record entries).Legible) (hn : Named entries named) :
    ∀ entry ∈ named, entry.2.Legible := by
  intro entry member
  obtain ⟨former, hf, _, he⟩ := exists_of_mem_forall₂ hn member
  cases legible with
  | record names values => exact he ▸ values former hf

/-- The names of a readable record stand for something. -/
theorem exists_named {room : Nat} {entries : List (Bytes × Written)}
    (h : (Written.record entries).Readable (room + 1)) :
    ∃ named, Named entries named ∧ ∀ entry ∈ named, entry.2.Readable room := by
  have hr : ∀ entry ∈ entries, ∃ made, ((Json.unquoted? entry.1).map fun name => (name, entry.2)) =
      some made ∧ (Stands entry.1 made.1.toList ∧ entry.2 = made.2) := by
    intro entry member
    obtain ⟨name, stands, ht⟩ := Json.unquoted_of_isText (h entry member).1
    exact ⟨(name, entry.2), by rw [ht, Option.map_some], stands, rfl⟩
  obtain ⟨named, _, hn⟩ := exists_mapM_forall₂ hr
  refine ⟨named, hn, fun entry member => ?_⟩
  obtain ⟨former, hf, _, he⟩ := exists_of_mem_forall₂ hn member
  exact he ▸ (h former hf).2

end MediaGateway.Storage
