import MediaGateway.Proofs.Protobuf.Wire
import MediaGateway.Proofs.Text.Utf8
import MediaGateway.Proofs.TextMap
import MediaGateway.Protobuf.Shape

/-!
# Reading back the values of fields

What a shape writes under a number is a run of occurrences, each with its key in
front. A shape is sound when reading these occurrences one after another takes
the blank value to the value that was written. All seven shapes of values
without a message in them are sound.
-/

namespace MediaGateway.Protobuf

/-- An order that writes every entry of each map once. -/
def EntryOrder.Complete (order : EntryOrder) : Prop :=
  ∀ places map, (order places map).Perm map.entries

/-- The order of the keys writes every entry once. -/
theorem byKey_complete : EntryOrder.byKey.Complete := fun _ _ => List.Perm.refl _

/-- An order that writes every entry once does so in every part. -/
theorem EntryOrder.Complete.inside {order : EntryOrder} (complete : order.Complete) (place : Nat) :
    (order.inside place).Complete := fun places => complete (place :: places)

namespace Shape

variable {α : Type}

/-- Octets that take one value to another, occurrence after occurrence. -/
inductive Occurs (shape : Shape α) (depth number : Nat) : α → Bytes → α → Prop where
  /-- No occurrence leaves the value as it is. -/
  | done (value : α) : Occurs shape depth number value [] value
  /-- An occurrence is read, and then those behind it. -/
  | once {before next after : α} {wire : WireType} {content tail : Bytes}
      (hread : ∀ rest, shape.read depth wire before (content ++ rest) = .ok (next, rest))
      (later : Occurs shape depth number next tail after) :
      Occurs shape depth number before (writeKey number wire ++ content ++ tail) after

/-- A single occurrence. -/
theorem Occurs.single {shape : Shape α} {depth number : Nat} {before after : α} {wire : WireType}
    {content : Bytes}
    (hread : ∀ rest, shape.read depth wire before (content ++ rest) = .ok (after, rest)) :
    Occurs shape depth number before (writeKey number wire ++ content) after := by
  have ho : Occurs shape depth number before (writeKey number wire ++ content ++ []) after :=
    .once hread (.done after)
  rwa [List.append_nil] at ho

/-- Occurrences become fields of a state that holds the value, where the state merges them as the
shape reads them. -/
theorem Occurs.lift {σ : Type} {shape : Shape α} {depth number : Nat} {before after : α}
    {bytes : Bytes} (occurs : Occurs shape depth number before bytes after) (hp : 0 < number)
    (hn : number < numberBound) (merge : Merge σ) (put : α → σ)
    (hread : ∀ wire former latter content rest,
      shape.read depth wire former content = .ok (latter, rest) →
        merge (put former) number wire content = .ok (put latter, rest)) :
    Merged merge (put before) bytes (put after) := by
  induction occurs with
  | done value => exact .done _
  | once hr later ih => exact .field hp hn (fun rest => hread _ _ _ _ _ (hr rest)) ih

/-- Whatever the shape writes reads back from the blank value, once so many levels of nesting
are left. -/
def Sound (levels : Nat) (shape : Shape α) : Prop :=
  ∀ (order : EntryOrder), order.Complete → ∀ depth, levels ≤ depth → ∀ number value,
    (shape.write order number value).length < octetBound →
      Occurs shape depth number shape.blank (shape.write order number value) value

/-- A field takes more octets than what it holds. -/
theorem length_lt_writeContent (number : Nat) (content : Bytes) :
    content.length < (writeContent number content).length := by
  have hk := writeKey_length_pos number .lengthDelimited
  simp only [writeContent, writeDelimited, List.length_append]
  omega

/-- A delimited text reads back. -/
theorem readText_writeDelimited {value : String}
    (hl : (Bytes.ofText value).length < octetBound) (rest : Bytes) :
    readText (writeDelimited (Bytes.ofText value) ++ rest) = .ok (value, rest) := by
  simp only [readText, readDelimited_writeDelimited hl, Bytes.toText_ofText]

/-- A reader that finds the wire type it insists on goes on. -/
@[simp] theorem expecting_self {β : Type} (wire : WireType) (reader : Reading β) :
    expecting wire wire reader = reader := by
  simp only [expecting, expectWire, if_true]

/-- An empty text is not written. -/
@[simp] theorem text_write_blank (order : EntryOrder) (number : Nat) :
    text.write order number "" = [] := rfl

/-- A zero of 64 bits is not written. -/
@[simp] theorem int64_write_blank (order : EntryOrder) (number : Nat) :
    int64.write order number 0 = [] := rfl

/-- A zero of 32 bits is not written. -/
@[simp] theorem int32_write_blank (order : EntryOrder) (number : Nat) :
    int32.write order number 0 = [] := rfl

/-- An untrue value is not written. -/
@[simp] theorem flag_write_blank (order : EntryOrder) (number : Nat) :
    flag.write order number false = [] := rfl

/-- A text takes its own octets and at most twenty in front of them. -/
theorem text_write_length_le (order : EntryOrder) {number : Nat} (hn : number < numberBound)
    {value : String} (hv : value.utf8ByteSize < octetBound) :
    (text.write order number value).length ≤ value.utf8ByteSize + 20 := by
  by_cases he : value = ""
  · simp only [text, he, if_true, List.length_nil, Nat.zero_le]
  · have hb : numberBound = 536870912 := rfl
    have hw := wire_number_lt .lengthDelimited
    have hk : number * 8 + WireType.lengthDelimited.number < octetBound :=
      Nat.lt_trans (by omega : _ < 4294967296) (by decide)
    have hfront := writeVarint_length_le hk
    have hcount := writeVarint_length_le hv
    simp only [text, he, if_false, writeContent, writeKey, writeDelimited, List.length_append,
      Bytes.ofText_length]
    omega

/-- A text reads back. -/
theorem text_sound {levels : Nat} : Sound levels text := by
  intro order _ depth _ number value hl
  by_cases hv : value = ""
  · simp only [text, hv, if_true]
    exact .done _
  · simp only [text, hv, if_false] at hl ⊢
    have hc := Nat.lt_trans (length_lt_writeContent number _) hl
    refine .single fun rest => ?_
    simp only [expecting_self, readText_writeDelimited hc]

/-- Octets read back. -/
theorem octets_sound {levels : Nat} : Sound levels octets := by
  intro order _ depth _ number value hl
  by_cases hv : value = []
  · simp only [octets, hv, if_true]
    exact .done _
  · simp only [octets, hv, if_false] at hl ⊢
    have hc := Nat.lt_trans (length_lt_writeContent number _) hl
    refine .single fun rest => ?_
    simp only [expecting_self, readDelimited_writeDelimited hc]

/-- A signed integer of 64 bits reads back from its two's complement. -/
theorem int64_sound {levels : Nat} : Sound levels int64 := by
  intro order _ depth _ number value _
  by_cases hv : value = 0
  · simp only [int64, hv, if_true]
    exact .done _
  · have hb : value.toUInt64.toNat < octetBound := value.toUInt64.toNat_lt
    have hr : (UInt64.ofNat value.toUInt64.toNat).toInt64 = value := by
      rw [UInt64.ofNat_toNat, Int64.toInt64_toUInt64]
    simp only [int64, hv, if_false]
    refine .single fun rest => ?_
    simp only [expecting_self, readVarint_writeVarint hb, Except.map, hr]

/-- The low half of a widened integer is the integer. -/
theorem toInt32_low_half (value : Int32) :
    (UInt32.ofNat value.toInt64.toUInt64.toNat).toInt32 = value := by
  have hw : UInt32.ofNat value.toInt64.toUInt64.toNat = value.toInt64.toUInt64.toUInt32 := rfl
  have hb : BitVec.setWidth 32 (BitVec.signExtend 64 value.toBitVec) = value.toBitVec := by
    apply BitVec.eq_of_getLsbD_eq
    intro place hp
    have hlarge : place < 64 := by omega
    simp only [BitVec.getLsbD_setWidth, BitVec.getLsbD_signExtend, hp, hlarge, decide_true,
      Bool.true_and, if_true]
  apply Int32.toBitVec_inj.mp
  rw [hw]
  simpa only [UInt32.toBitVec_toInt32, UInt64.toBitVec_toUInt32, Int64.toBitVec_toUInt64,
    Int32.toBitVec_toInt64] using hb

/-- A signed integer of 32 bits reads back from its widened form. -/
theorem int32_sound {levels : Nat} : Sound levels int32 := by
  intro order _ depth _ number value _
  by_cases hv : value = 0
  · simp only [int32, hv, if_true]
    exact .done _
  · have hb : value.toInt64.toUInt64.toNat < octetBound := value.toInt64.toUInt64.toNat_lt
    simp only [int32, hv, if_false]
    refine .single fun rest => ?_
    simp only [expecting_self, readVarint_writeVarint hb, Except.map, toInt32_low_half]

/-- A truth value reads back. -/
theorem flag_sound {levels : Nat} : Sound levels flag := by
  intro order _ depth _ number value _
  cases value with
  | false => exact .done _
  | true =>
    have hb : 1 < octetBound := by decide
    simp only [flag, if_true]
    refine .single fun rest => ?_
    simp only [expecting_self, readVarint_writeVarint hb, Except.map]
    rfl

/-- Whole contents make up less than a flat list of the fields that hold them. -/
theorem length_lt_of_cons {number : Nat} {content tail : Bytes}
    (hl : (writeContent number content ++ tail).length < octetBound) :
    content.length < octetBound ∧ tail.length < octetBound := by
  have hc := length_lt_writeContent number content
  simp only [List.length_append] at hl
  omega

/-- Texts are read onto those before them. -/
theorem texts_occurs (depth number : Nat) (values before : List String)
    (hl : (values.flatMap fun value => writeContent number (Bytes.ofText value)).length
      < octetBound) :
    Occurs texts depth number before
      (values.flatMap fun value => writeContent number (Bytes.ofText value))
      (before ++ values) := by
  induction values generalizing before with
  | nil =>
    rw [List.append_nil]
    exact .done _
  | cons value values ih =>
    rw [List.flatMap_cons] at hl ⊢
    obtain ⟨hc, ht⟩ := length_lt_of_cons hl
    have hs : before ++ value :: values = before ++ [value] ++ values := by
      rw [List.append_assoc, List.singleton_append]
    rw [hs]
    refine .once (fun rest => ?_) (ih (before ++ [value]) ht)
    simp only [texts, expecting_self, readText_writeDelimited hc, Except.map]

/-- A list of texts reads back, empty texts and all. -/
theorem texts_sound {levels : Nat} : Sound levels texts := fun _ _ depth _ number value hl =>
  texts_occurs depth number value [] hl

/-- The fields of an entry take the empty entry to it. -/
theorem entry_merged (depth : Nat) (entry : String × String)
    (hl : (writeEntry entry).length < octetBound) :
    Merged (mergeEntry depth) ("", "") (writeEntry entry) entry := by
  obtain ⟨key, value⟩ := entry
  simp only [writeEntry, List.length_append] at hl
  have hkey : Merged (mergeEntry depth) ("", "") (text.write .byKey 1 key) (key, "") := by
    have ho := text_sound EntryOrder.byKey byKey_complete depth (Nat.le_refl _) 1 key (by omega)
    refine ho.lift (by decide) (by decide) _ (fun text => (text, "")) ?_
    intro wire before after content rest hread
    simp only [mergeEntry, if_true, hread, Except.map]
  have hvalue :
      Merged (mergeEntry depth) (key, "") (text.write .byKey 2 value) (key, value) := by
    have ho := text_sound EntryOrder.byKey byKey_complete depth (Nat.le_refl _) 2 value (by omega)
    refine ho.lift (by decide) (by decide) _ (fun text => (key, text)) ?_
    intro wire before after content rest hread
    simp only [mergeEntry, Nat.reduceEqDiff, if_false, if_true, hread, Except.map]
  exact hkey.append hvalue

/-- Entries are taken into the map before them. -/
theorem table_occurs (depth number : Nat) (entries : List (String × String)) (before : TextMap)
    (hl : (entries.flatMap fun entry => writeContent number (writeEntry entry)).length
      < octetBound) :
    Occurs table (depth + 1) number before
      (entries.flatMap fun entry => writeContent number (writeEntry entry))
      (entries.foldl (fun map entry => map.insert entry.1 entry.2) before) := by
  induction entries generalizing before with
  | nil => exact .done _
  | cons entry entries ih =>
    rw [List.flatMap_cons] at hl ⊢
    obtain ⟨hc, ht⟩ := length_lt_of_cons hl
    refine .once (fun rest => ?_) (ih (before.insert entry.1 entry.2) ht)
    simp only [table, (entry_merged depth entry hc).mergeDelimited_eq hc, Except.map]

/-- A map reads back from its entries in any order, one level of nesting below. -/
theorem table_sound {levels : Nat} : Sound (levels + 1) table := by
  intro order complete depth hd number map hl
  obtain ⟨depth, rfl⟩ := Nat.exists_eq_add_one_of_ne_zero (by omega : depth ≠ 0)
  have ho := table_occurs depth number (order [] map) TextMap.empty hl
  rwa [TextMap.foldl_insert_perm (complete [] map)] at ho

end Shape

end MediaGateway.Protobuf
