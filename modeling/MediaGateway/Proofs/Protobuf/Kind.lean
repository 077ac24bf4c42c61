import MediaGateway.Proofs.Protobuf.Effect
import MediaGateway.Proofs.Protobuf.Record

/-!
# Message types and their descriptions

A description tells the truth about a message type when its fields have the names and
numbers of the type's own, and each kind conveys the shape of the field: the same values,
the same octets, and every occurrence that is read as one kind of value is read by the
shape as the same value. Then a record of the description is a message without its type,
what the type writes is what is written from the description, and what is read from the
description is read by the type.
-/

namespace MediaGateway.Protobuf.Descriptor

open Shape

variable {α : Type}

/-- Values of a kind are values of a shape without their type, given the levels of nesting that
both take. -/
structure Conveys (files : List FileInfo) (levels : Nat) (kind : Kind) (shape : Shape α) :
    Prop where
  /-- An occurrence has an effect. -/
  effective : ∃ effect, shape.HasEffect effect
  /-- A field that never occurs is alike. -/
  blank : shape.view shape.blank = kind.blank
  /-- Values that look alike are the same. -/
  faithful : Function.Injective shape.view
  /-- The values are the same. -/
  typed : ∀ value, Typed files kind value ↔ ∃ content, shape.view content = value
  /-- The octets are the same. -/
  written : ∀ (order : EntryOrder) (depth : Nat), levels ≤ depth → ∀ number content,
    ∃ payloads, kind.write (writeRecord files depth) order (shape.view content) = some payloads ∧
      payloads.flatMap (fun payload => writeOccurrence (number, payload)) =
        shape.write order number content
  /-- An occurrence that is read for the kind is read by the shape, and comes to the same. -/
  heard : ∀ (depth number : Nat) (payload : Payload) (before : α) (after : Value),
    kind.merge (readRecord files depth) number (shape.view before) payload = .ok after →
      ∃ next, shape.view next = after ∧ ∀ content, payload.IsWritten content →
        Steady (shape.read depth payload.wire before) content next

/-- Octets that are read as a text are its own. -/
theorem ofText_of_textOf {number : Nat} {content : Bytes} {text : String}
    (h : textOf number content = .ok text) : Bytes.ofText text = content := by
  rw [textOf] at h
  split at h
  next found hc =>
    cases h
    exact Bytes.ofText_of_toText hc
  · cases h

variable {files : List FileInfo} {levels : Nat}

/-- A text is conveyed. -/
theorem text_conveys : Conveys files levels .text text where
  effective := ⟨_, .text⟩
  blank := rfl
  faithful := fun _ _ => Value.text.inj
  typed value := by
    constructor
    · rintro ⟨⟩
      exact ⟨_, rfl⟩
    · rintro ⟨content, rfl⟩
      exact .text content
  written order depth _ number content := by
    refine ⟨_, rfl, ?_⟩
    by_cases he : content = ""
    · simp only [text, he, if_true, List.flatMap_nil]
    · simp only [text, he, if_false, List.flatMap_singleton]
      rfl
  heard depth number payload before after h := by
    cases payload with
    | number value => cases h
    | stretch inner =>
      obtain ⟨next, hn, rfl⟩ := of_map_ok h
      obtain rfl := ofText_of_textOf hn
      exact ⟨next, rfl, fun content isWritten =>
        (HasEffect.text.accepts depth _ before).steady_iff.mpr ⟨rfl, isWritten⟩⟩

/-- Octets are conveyed. -/
theorem octets_conveys : Conveys files levels .octets octets where
  effective := ⟨_, .octets⟩
  blank := rfl
  faithful := fun _ _ => Value.octets.inj
  typed value := by
    constructor
    · rintro ⟨⟩
      exact ⟨_, rfl⟩
    · rintro ⟨content, rfl⟩
      exact .octets content
  written order depth _ number content := by
    refine ⟨_, rfl, ?_⟩
    by_cases he : content = []
    · simp only [octets, he, if_true, List.flatMap_nil]
    · simp only [octets, he, if_false, List.flatMap_singleton]
      rfl
  heard depth number payload before after h := by
    cases payload with
    | number value => cases h
    | stretch inner =>
      cases h
      exact ⟨inner, rfl, fun content isWritten =>
        (HasEffect.octets.accepts depth _ before).steady_iff.mpr ⟨rfl, isWritten⟩⟩

/-- The residue of an integer of 64 bits is its two's complement. -/
theorem complement_toInt (value : Int64) :
    (value.toInt % octetBound).toNat = value.toUInt64.toNat := by
  have hb : octetBound = 18446744073709551616 := rfl
  have hl : value.toUInt64.toNat < octetBound := value.toUInt64.toNat_lt
  have hi : value.toInt = Int.bmod value.toUInt64.toNat octetBound :=
    BitVec.toInt_eq_toNat_bmod _
  rw [hi, Int.bmod_emod, hb]
  rw [hb] at hl
  omega

/-- An integer of 64 bits is conveyed. -/
theorem int64_conveys : Conveys files levels .int64 int64 where
  effective := ⟨_, .int64⟩
  blank := rfl
  faithful := fun _ _ h => Int64.toInt_inj.mp (Value.integer.inj h)
  typed value := by
    constructor
    · rintro ⟨⟩
      rename_i integer least most
      exact ⟨Int64.ofInt integer, congrArg Value.integer (Int64.toInt_ofInt_of_le least most)⟩
    · rintro ⟨content, rfl⟩
      exact .int64 content.le_toInt content.toInt_lt
  written order depth _ number content := by
    refine ⟨_, writeInteger_eq_some_iff.mpr ⟨⟨content.le_toInt, content.toInt_lt⟩, rfl⟩, ?_⟩
    have hz : content.toInt = 0 ↔ content = 0 := Int64.toInt_inj (y := 0)
    by_cases he : content = 0
    · simp only [int64, he, if_true]
      rfl
    · simp only [int64, hz, he, if_false, List.flatMap_singleton, complement_toInt]
      rfl
  heard depth number payload before after h := by
    cases payload with
    | stretch inner => cases h
    | number value =>
      cases h
      exact ⟨(UInt64.ofNat value).toInt64, congrArg Value.integer (BitVec.toInt_ofNat value),
        fun content isWritten => (HasEffect.int64.accepts depth _ before).steady_iff.mpr
          ⟨rfl, value, isWritten, rfl⟩⟩

/-- An integer of 32 bits is conveyed. -/
theorem int32_conveys : Conveys files levels .int32 int32 where
  effective := ⟨_, .int32⟩
  blank := rfl
  faithful := fun _ _ h => Int32.toInt_inj.mp (Value.integer.inj h)
  typed value := by
    constructor
    · rintro ⟨⟩
      rename_i integer least most
      exact ⟨Int32.ofInt integer, congrArg Value.integer (Int32.toInt_ofInt_of_le least most)⟩
    · rintro ⟨content, rfl⟩
      exact .int32 content.le_toInt content.toInt_lt
  written order depth _ number content := by
    refine ⟨_, writeInteger_eq_some_iff.mpr ⟨⟨content.le_toInt, content.toInt_lt⟩, rfl⟩, ?_⟩
    have hz : content.toInt = 0 ↔ content = 0 := Int32.toInt_inj (y := 0)
    by_cases he : content = 0
    · simp only [int32, he, if_true]
      rfl
    · have hw := complement_toInt content.toInt64
      rw [Int32.toInt_toInt64] at hw
      simp only [int32, hz, he, if_false, List.flatMap_singleton, hw]
      rfl
  heard depth number payload before after h := by
    cases payload with
    | stretch inner => cases h
    | number value =>
      cases h
      exact ⟨(UInt32.ofNat value).toInt32, congrArg Value.integer (BitVec.toInt_ofNat value),
        fun content isWritten => (HasEffect.int32.accepts depth _ before).steady_iff.mpr
          ⟨rfl, value, isWritten, rfl⟩⟩

/-- A truth value is conveyed. -/
theorem flag_conveys : Conveys files levels .flag flag where
  effective := ⟨_, .flag⟩
  blank := rfl
  faithful := fun _ _ => Value.flag.inj
  typed value := by
    constructor
    · rintro ⟨⟩
      exact ⟨_, rfl⟩
    · rintro ⟨content, rfl⟩
      exact .flag content
  written order depth _ number content := by
    refine ⟨_, rfl, ?_⟩
    cases content with
    | false => rfl
    | true =>
      simp only [flag, if_true, List.flatMap_singleton]
      rfl
  heard depth number payload before after h := by
    cases payload with
    | stretch inner => cases h
    | number value =>
      cases h
      exact ⟨value != 0, rfl, fun content isWritten =>
        (HasEffect.flag.accepts depth _ before).steady_iff.mpr ⟨rfl, value, isWritten, rfl⟩⟩

/-- A list of texts is conveyed. -/
theorem texts_conveys : Conveys files levels .texts texts where
  effective := ⟨_, .texts⟩
  blank := rfl
  faithful := fun _ _ => Value.texts.inj
  typed value := by
    constructor
    · rintro ⟨⟩
      exact ⟨_, rfl⟩
    · rintro ⟨content, rfl⟩
      exact .texts content
  written order depth _ number content := by
    refine ⟨_, rfl, ?_⟩
    rw [List.flatMap_map]
    rfl
  heard depth number payload before after h := by
    cases payload with
    | number value => cases h
    | stretch inner =>
      obtain ⟨item, hn, rfl⟩ := of_map_ok h
      obtain rfl := ofText_of_textOf hn
      exact ⟨before ++ [item], rfl, fun content isWritten =>
        (HasEffect.texts.accepts depth _ before).steady_iff.mpr ⟨rfl, item, isWritten, rfl⟩⟩

section Run

variable {σ : Type} {merge : Merge σ} {step : σ → Nat → WireType → Bytes → σ → Prop}
  {read : List FieldInfo → Option Record → Bytes → Except Misread Record} {parts : List Part}
  {view : σ → Record}

/-- Whatever occurrence is read into the record of a state is merged into the state, and comes to
the same. -/
def Follows (merge : Merge σ)
    (read : List FieldInfo → Option Record → Bytes → Except Misread Record) (parts : List Part)
    (view : σ → Record) : Prop :=
  ∀ (state : σ) (number : Nat) (payload : Payload) (record : Record),
    mergeAt read parts (view state) (number, payload) = .ok record →
      ∃ next, view next = record ∧ ∀ content, payload.IsWritten content →
        Steady (merge state number payload.wire) content next

/-- Octets whose occurrences are read one after another are a run. -/
theorem Follows.run (follows : Follows merge read parts view) {found : List Occurrence}
    {bytes : Bytes} (spelled : Spelled found bytes) {state : σ} {record : Record}
    (h : found.foldlM (mergeAt read parts) (view state) = .ok record) :
    ∃ last, view last = record ∧
      Run (fun state number wire => Steady (merge state number wire)) state bytes last := by
  induction spelled generalizing state with
  | done =>
    cases h
    exact ⟨state, rfl, .done state⟩
  | once isKey isPayload behind ih =>
    obtain ⟨middle, hm, hl⟩ := foldlM_cons_ok h
    obtain ⟨next, rfl, hs⟩ := follows _ _ _ _ hm
    obtain ⟨last, hv, run⟩ := ih hl
    exact ⟨last, hv, .field isKey (hs _ isPayload) run⟩

/-- Octets that are read on top of the record of a state are merged into the state, and come to
the same. -/
theorem Follows.mergeAll {depth : Nat} (follows : Follows merge (readRecord files depth) parts view)
    (exact : Exact merge step) {fields : List FieldInfo}
    (understood : parts? files fields = some parts) {before : Option Record} {state : σ}
    (start : before.getD (blankOf parts) = view state) {bytes : Bytes} {record : Record}
    (h : readRecord files (depth + 1) fields before bytes = .ok record) :
    ∃ last, view last = record ∧ mergeAll merge state bytes = .ok last := by
  simp only [readRecord, understood, start] at h
  split at h
  · cases h
  next found ho =>
    have spelled := (occurrences_ok_iff (Nat.lt_succ_self _)).mp ho
    obtain ⟨last, hv, run⟩ := follows.run spelled h
    have steady : Exact merge fun state number wire => Steady (merge state number wire) :=
      fun state number wire => (exact state number wire).steady
    exact ⟨last, hv, steady.mergeAll_ok_iff.mpr run⟩

end Run

/-- The fields of a map entry from text to text. -/
def entryParts : List Part := [⟨"key", 1, .text⟩, ⟨"value", 2, .text⟩]

/-- The record of an entry is merged as the entry. -/
theorem entry_follows (depth : Nat) :
    Follows (mergeEntry depth) (readRecord files depth) entryParts entryRecord := by
  intro entry number payload record h
  have ht : Conveys files 0 .text text := text_conveys
  simp only [entryParts, entryRecord, mergeAt] at h
  split at h
  next hk =>
    subst hk
    obtain ⟨after, hm, rfl⟩ := of_map_ok h
    obtain ⟨key, rfl, hs⟩ := ht.heard _ _ _ entry.1 _ hm
    refine ⟨(key, entry.2), rfl, fun content isWritten rest => ?_⟩
    simp only [mergeEntry, if_true, hs content isWritten rest, Except.map]
  next hk =>
    obtain ⟨later, hl, rfl⟩ := of_map_ok h
    split at hl
    next hv =>
      subst hv
      obtain ⟨after, hm, rfl⟩ := of_map_ok hl
      obtain ⟨value, rfl, hs⟩ := ht.heard _ _ _ entry.2 _ hm
      refine ⟨(entry.1, value), rfl, fun content isWritten rest => ?_⟩
      simp only [mergeEntry, Nat.reduceEqDiff, if_false, if_true, hs content isWritten rest,
        Except.map]
    next hv =>
      obtain ⟨_, hn, -⟩ := of_map_ok hl
      cases hn

/-- A record that is a map entry is its record. -/
theorem entryRecord_of_entryOf {number : Nat} {record : Record} {entry : String × String}
    (h : entryOf number record = .ok entry) : record = entryRecord entry := by
  unfold entryOf at h
  split at h
  next first key second value =>
    split at h
    next hn =>
      cases h
      rw [hn.1, hn.2]
      rfl
    · cases h
  · cases h

/-- Entries with the same record are the same. -/
theorem entryRecord_injective : Function.Injective entryRecord := by
  intro entry other h
  have he := entryOf_entryRecord 0 entry
  rw [h, entryOf_entryRecord] at he
  exact (Except.ok.inj he).symm

/-- What is written for a map entry. -/
theorem writeRecord_entryRecord {fields : List FieldInfo}
    (understood : parts? files fields = some entryParts) (depth : Nat) (order : EntryOrder)
    (entry : String × String) :
    writeRecord files (depth + 1) order fields (entryRecord entry) = some (writeEntry entry) := by
  have ht : Conveys files 0 .text text := text_conveys
  obtain ⟨keys, hk, hkw⟩ := ht.written (order.inside 1) depth (Nat.zero_le _) 1 entry.1
  obtain ⟨values, hv, hvw⟩ := ht.written (order.inside 2) depth (Nat.zero_le _) 2 entry.2
  have ho : occurrencesOf (writeRecord files depth) order entryParts (entryRecord entry) =
      some (keys.map (Prod.mk 1) ++ (values.map (Prod.mk 2) ++ [])) :=
    occurrencesOf_cons_eq_some_iff.mpr ⟨rfl, keys, _, hk,
      occurrencesOf_cons_eq_some_iff.mpr ⟨rfl, values, [], hv, rfl, rfl⟩, rfl⟩
  simp only [writeRecord, understood, ho, Option.map_some, List.append_nil, List.flatMap_append,
    List.flatMap_map]
  rw [hkw, hvw]
  rfl

/-- A map from text to text is conveyed by its entries. -/
theorem table_conveys {fields : List FieldInfo}
    (understood : parts? files fields = some entryParts) :
    Conveys files (levels + 1) (.table fields) table where
  effective := ⟨_, .table⟩
  blank := rfl
  faithful := fun _ _ h => TextMap.ext (Value.table.inj h)
  typed value := by
    constructor
    · rintro ⟨⟩
      exact ⟨_, rfl⟩
    · rintro ⟨content, rfl⟩
      exact .table understood content
  written order depth few number content := by
    obtain ⟨depth, rfl⟩ := Nat.exists_eq_add_one_of_ne_zero (by omega : depth ≠ 0)
    have hm : ((order [] content).mapM fun entry =>
        writeRecord files (depth + 1) order fields (entryRecord entry)) =
          some ((order [] content).map writeEntry) := by
      simp only [writeRecord_entryRecord understood]
      exact List.mapM_pure
    refine ⟨((order [] content).map writeEntry).map .stretch, ?_, ?_⟩
    · simp only [Kind.write, table, content.ascending, dif_pos, hm, Option.map_some]
    · simp only [List.flatMap_map]
      rfl
  heard depth number payload before after h := by
    cases payload with
    | number value => cases h
    | stretch inner =>
      simp only [Kind.merge, table] at h
      split at h
      · cases h
      next record hr =>
        obtain ⟨entry, he, rfl⟩ := of_map_ok h
        obtain rfl := entryRecord_of_entryOf he
        -- An entry takes a level of nesting, for the reader as for the shape.
        cases depth with
        | zero => cases hr
        | succ depth =>
          have hb : Option.getD none (blankOf entryParts) = entryRecord ("", "") := rfl
          obtain ⟨last, hl, hm⟩ := (entry_follows depth).mergeAll (mergeEntry_exact depth)
            understood hb hr
          obtain rfl := entryRecord_injective hl
          have run := (mergeEntry_exact depth).mergeAll_ok_iff.mp hm
          refine ⟨before.insert last.1 last.2, rfl, fun content isWritten => ?_⟩
          exact (HasEffect.table.accepts (depth + 1) _ before).steady_iff.mpr
            ⟨depth, rfl, last, ⟨inner, isWritten, run⟩, rfl⟩

end MediaGateway.Protobuf.Descriptor
