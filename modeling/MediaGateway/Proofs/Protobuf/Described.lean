import Mathlib.Data.List.Basic
import MediaGateway.Proofs.Protobuf.Kind

/-!
# Message types and their descriptions

A description is true of a message type when its fields have the names and numbers of the
type's own, in their order, and kinds that convey their shapes. Then the records of the
description are the messages without their type, what the type writes is what is written
from the description, and whatever is read from the description is read by the type.
-/

namespace MediaGateway.Protobuf.Descriptor

open Shape

variable {N : Type} {files : List FileInfo} {levels : Nat}

/-- The values of some fields of a message by their names. -/
def viewOf (fields : List (Field N)) (message : N) : Record :=
  fields.map fun field => (field.name, field.shape.view (field.get message))

/-- Fields with the kinds of their values. -/
def partsOf (fields : List (Field N)) (kinds : List Kind) : List Part :=
  List.zipWith (fun field kind => ⟨field.name, field.number, kind⟩) fields kinds

/-- Kinds that convey the shapes of fields, one by one. -/
def Conveyed (files : List FileInfo) (levels : Nat) : List Kind → List (Field N) → Prop
  | [], [] => True
  | kind :: kinds, field :: fields =>
    Conveys files levels kind field.shape ∧ Conveyed files levels kinds fields
  | _, _ => False

/-- Setting the first of some fields that are apart changes its value only. -/
theorem viewOf_set_first [Message N] {field : Field N} {fields : List (Field N)}
    (placed : field.Placed) (apart : Apart (field :: fields)) (message : N)
    (value : field.Carrier) :
    viewOf (field :: fields) (field.set message value) =
      (field.name, field.shape.view value) :: viewOf fields message := by
  have ht : viewOf fields (field.set message value) = viewOf fields message := by
    refine List.map_congr_left fun other member => ?_
    rw [(apart.1.of_mem member).1]
  rw [viewOf, List.map_cons, placed.get_set]
  exact congrArg _ ht

/-- The records of conveyed fields that are apart are the values of messages. -/
theorem typedRecord_iff [Message N] {kinds : List Kind} {fields : List (Field N)}
    (conveyed : Conveyed files levels kinds fields) (placed : Everywhere Field.Placed fields)
    (apart : Apart fields) (record : Record) :
    TypedRecord files (partsOf fields kinds) record ↔
      ∃ message : N, viewOf fields message = record := by
  induction fields generalizing kinds record with
  | nil =>
    cases kinds with
    | cons => exact conveyed.elim
    | nil =>
      constructor
      · rintro ⟨⟩
        exact ⟨Message.blank, rfl⟩
      · rintro ⟨message, rfl⟩
        exact .done
  | cons field fields ih =>
    cases kinds with
    | nil => exact conveyed.elim
    | cons kind kinds =>
      obtain ⟨hc, hcs⟩ := conveyed
      obtain ⟨hp, hps⟩ := placed
      constructor
      · intro h
        cases h with
        | field typed later =>
          -- The message with the later values is there already, and the first one is set in it.
          obtain ⟨value, rfl⟩ := (hc.typed _).mp typed
          obtain ⟨message, rfl⟩ := (ih hcs hps apart.2 _).mp later
          exact ⟨field.set message value, viewOf_set_first hp apart message value⟩
      · rintro ⟨message, rfl⟩
        exact .field ((hc.typed _).mpr ⟨_, rfl⟩) ((ih hcs hps apart.2 _).mpr ⟨message, rfl⟩)

/-- What is written for conveyed fields is written from their description. -/
theorem occurrencesOf_viewOf {kinds : List Kind} {fields : List (Field N)}
    (conveyed : Conveyed files levels kinds fields) {depth : Nat} (few : levels ≤ depth)
    (order : EntryOrder) (message : N) :
    ∃ found, occurrencesOf (writeRecord files depth) order (partsOf fields kinds)
        (viewOf fields message) = some found ∧
      found.flatMap writeOccurrence = fields.flatMap fun field =>
        field.shape.write (order.inside field.number) field.number (field.get message) := by
  induction fields generalizing kinds with
  | nil =>
    cases kinds with
    | cons => exact conveyed.elim
    | nil => exact ⟨[], rfl, rfl⟩
  | cons field fields ih =>
    cases kinds with
    | nil => exact conveyed.elim
    | cons kind kinds =>
      obtain ⟨hc, hcs⟩ := conveyed
      obtain ⟨later, hl, hlw⟩ := ih hcs
      obtain ⟨payloads, hp, hpw⟩ :=
        hc.written (order.inside field.number) depth few field.number (field.get message)
      refine ⟨payloads.map (Prod.mk field.number) ++ later,
        occurrencesOf_cons_eq_some_iff.mpr ⟨rfl, payloads, later, hp, hl, rfl⟩, ?_⟩
      rw [List.flatMap_append, List.flatMap_map, hpw, hlw, List.flatMap_cons]

/-- An occurrence that is read into the values of conveyed fields is read by one of them. -/
theorem mergeAt_viewOf [Message N] {kinds : List Kind} {fields : List (Field N)}
    (conveyed : Conveyed files levels kinds fields) (placed : Everywhere Field.Placed fields)
    (apart : Apart fields) {depth number : Nat} {payload : Payload} {message : N} {record : Record}
    (h : mergeAt (readRecord files depth) (partsOf fields kinds) (viewOf fields message)
      (number, payload) = .ok record) :
    ∃ field ∈ fields, field.number = number ∧ ∃ value,
      viewOf fields (field.set message value) = record ∧ ∀ content, payload.IsWritten content →
        Steady (field.shape.read depth payload.wire (field.get message)) content value := by
  induction fields generalizing kinds record with
  | nil =>
    cases kinds with
    | cons => exact conveyed.elim
    | nil => cases h
  | cons field fields ih =>
    cases kinds with
    | nil => exact conveyed.elim
    | cons kind kinds =>
      obtain ⟨hc, hcs⟩ := conveyed
      obtain ⟨hp, hps⟩ := placed
      simp only [partsOf, viewOf, List.zipWith_cons_cons, List.map_cons, mergeAt] at h
      split at h
      next hn =>
        obtain ⟨after, hm, rfl⟩ := of_map_ok h
        obtain ⟨value, rfl, hs⟩ := hc.heard _ _ _ _ _ hm
        exact ⟨field, List.mem_cons_self, hn, value, viewOf_set_first hp apart message value, hs⟩
      next hn =>
        obtain ⟨later, hl, rfl⟩ := of_map_ok h
        obtain ⟨other, member, hon, value, rfl, hs⟩ := ih hcs hps apart.2 hl
        refine ⟨other, List.mem_cons_of_mem _ member, hon, value, ?_, hs⟩
        rw [viewOf, List.map_cons, (apart.1.of_mem member).2]
        rfl

/-- Conveyed fields have effects. -/
theorem Conveyed.effective {kinds : List Kind} {fields : List (Field N)}
    (conveyed : Conveyed files levels kinds fields) :
    Everywhere (fun field => ∃ effect, field.shape.HasEffect effect) fields := by
  induction fields generalizing kinds with
  | nil => trivial
  | cons field fields ih =>
    cases kinds with
    | nil => exact conveyed.elim
    | cons kind kinds => exact ⟨conveyed.1.effective, ih conveyed.2⟩

/-- Messages with the same values of conveyed fields have them in common. -/
theorem Conveyed.get_eq {kinds : List Kind} {fields : List (Field N)}
    (conveyed : Conveyed files levels kinds fields) {message other : N}
    (same : viewOf fields message = viewOf fields other) {field : Field N}
    (member : field ∈ fields) : field.get message = field.get other := by
  induction fields generalizing kinds with
  | nil => exact absurd member List.not_mem_nil
  | cons first fields ih =>
    cases kinds with
    | nil => exact conveyed.elim
    | cons kind kinds =>
      obtain ⟨hf, hr⟩ := List.cons.inj same
      rcases List.mem_cons.mp member with rfl | later
      · exact conveyed.1.faithful (Prod.mk.inj hf).2
      · exact ih conveyed.2 hr later

/-- What a blank message looks like. -/
theorem blankOf_partsOf [Message N] {kinds : List Kind} {fields : List (Field N)}
    (conveyed : Conveyed files levels kinds fields) (placed : Everywhere Field.Placed fields) :
    blankOf (partsOf fields kinds) = viewOf fields Message.blank := by
  induction fields generalizing kinds with
  | nil =>
    cases kinds with
    | cons => exact conveyed.elim
    | nil => rfl
  | cons field fields ih =>
    cases kinds with
    | nil => exact conveyed.elim
    | cons kind kinds =>
      have ht := ih conveyed.2 placed.2
      rw [blankOf, partsOf] at ht
      rw [viewOf, List.map_cons, placed.1.get_blank, conveyed.1.blank]
      exact congrArg _ ht

variable [Message N] {infos : List FieldInfo}

/-- A description that is true of a message type. -/
def Describes (files : List FileInfo) (levels : Nat) (infos : List FieldInfo) (N : Type)
    [Message N] : Prop :=
  ∃ kinds, parts? files infos = some (partsOf (Message.fields (M := N)) kinds) ∧
    Conveyed files levels kinds (Message.fields (M := N))

namespace Describes

variable {height : Nat}

/-- The fields of a described message have effects. -/
theorem effective (describes : Describes files levels infos N) : Message.Effective N := by
  obtain ⟨kinds, -, conveyed⟩ := describes
  exact conveyed.effective

/-- Messages that look alike are the same. -/
theorem view_injective (describes : Describes files levels infos N)
    (lawful : Message.Lawful N height) : Function.Injective (Message.view (M := N)) := by
  obtain ⟨kinds, -, conveyed⟩ := describes
  intro message other same
  rw [← lawful.rebuilt message, ← lawful.rebuilt other]
  refine List.foldl_ext _ _ _ fun built field member => ?_
  rw [conveyed.get_eq same member]

/-- The records of the description are the messages without their type. -/
theorem typed_iff (describes : Describes files levels infos N) (lawful : Message.Lawful N height)
    {parts : List Part} (understood : parts? files infos = some parts) (record : Record) :
    TypedRecord files parts record ↔ ∃ message : N, Message.view message = record := by
  obtain ⟨kinds, hp, conveyed⟩ := describes
  obtain rfl := Option.some.inj (understood.symm.trans hp)
  exact typedRecord_iff conveyed lawful.placed lawful.apart record

/-- What a message type writes is written from the description. -/
theorem writeRecord_view (describes : Describes files levels infos N) {depth : Nat}
    (few : levels ≤ depth) (order : EntryOrder) (message : N) :
    writeRecord files (depth + 1) order infos (Message.view message) =
      some (Message.encodeOrdered order message) := by
  obtain ⟨kinds, hp, conveyed⟩ := describes
  obtain ⟨found, ho, hw⟩ := occurrencesOf_viewOf conveyed few order message
  simp only [writeRecord, hp]
  rw [show Message.view message = viewOf Message.fields message from rfl, ho, Option.map_some, hw]
  rfl

/-- What is read into the record of a message is merged into the message. -/
theorem follows (describes : Describes files levels infos N) (lawful : Message.Lawful N height)
    {parts : List Part} (understood : parts? files infos = some parts) (depth : Nat) :
    Follows (Message.mergeField depth) (readRecord files depth) parts (Message.view (M := N)) := by
  obtain ⟨kinds, hp, conveyed⟩ := describes
  obtain rfl := Option.some.inj (understood.symm.trans hp)
  intro message number payload record h
  obtain ⟨field, member, rfl, value, hv, hs⟩ :=
    mergeAt_viewOf conveyed lawful.placed lawful.apart h
  exact ⟨field.set message value, hv, fun content isWritten rest =>
    Message.mergeField_eq lawful member (hs content isWritten rest)⟩

/-- Octets that are read on top of the record of a message are merged into the message. -/
theorem mergeAll_of_readRecord (describes : Describes files levels infos N)
    (lawful : Message.Lawful N height) {depth : Nat} (before : Option N) {bytes : Bytes}
    {record : Record}
    (h : readRecord files (depth + 1) infos (before.map Message.view) bytes = .ok record) :
    ∃ message : N, Message.view message = record ∧
      mergeAll (Message.mergeField depth) (before.getD Message.blank) bytes = .ok message := by
  obtain ⟨kinds, hp, conveyed⟩ := describes
  have hb : (before.map Message.view).getD (blankOf (partsOf (Message.fields (M := N)) kinds)) =
      Message.view (before.getD Message.blank) := by
    cases before with
    | none => exact blankOf_partsOf conveyed lawful.placed
    | some message => rfl
  exact (follows ⟨kinds, hp, conveyed⟩ lawful hp depth).mergeAll
    (lawful.step_exact conveyed.effective depth) hp hb h

end Describes

/-- A nested message of a described type is conveyed. -/
theorem nested_conveys {height : Nat} (describes : Describes files levels infos N)
    (lawful : Message.Lawful N height) :
    Conveys files (levels + 1) (.message infos) (nested (N := N)) where
  effective := nested_hasEffect describes.effective
  blank := rfl
  faithful message other h := by
    cases message <;> cases other
    · rfl
    · cases h
    · cases h
    · exact congrArg some (describes.view_injective lawful (Value.record.inj h))
  typed value := by
    constructor
    · rintro ⟨⟩
      · exact ⟨none, rfl⟩
      next each understood =>
        obtain ⟨message, rfl⟩ := (describes.typed_iff lawful understood _).mp each
        exact ⟨some message, rfl⟩
    · rintro ⟨content, rfl⟩
      cases content with
      | none => exact .absent infos
      | some message =>
        obtain ⟨kinds, hp, _⟩ := id describes
        exact .record hp ((describes.typed_iff lawful hp _).mpr ⟨message, rfl⟩)
  written order depth few number content := by
    obtain ⟨depth, rfl⟩ := Nat.exists_eq_add_one_of_ne_zero (by omega : depth ≠ 0)
    cases content with
    | none => exact ⟨[], rfl, rfl⟩
    | some message =>
      have hw := describes.writeRecord_view (by omega : levels ≤ depth) order message
      refine ⟨[.stretch (Message.encodeOrdered order message)], ?_, ?_⟩
      · simp only [nested, Kind.write, hw, Option.map_some]
      · simp only [List.flatMap_singleton]
        rfl
  heard depth number payload before after h := by
    cases payload with
    | number value => cases before <;> cases h
    | stretch inner =>
      have hr : ∃ record,
          readRecord files depth infos (before.map Message.view) inner = .ok record ∧
            .record record = after := by
        cases before <;> exact of_map_ok h
      obtain ⟨record, hr, rfl⟩ := hr
      cases depth with
      | zero => cases hr
      | succ depth =>
        obtain ⟨message, rfl, hm⟩ := describes.mergeAll_of_readRecord lawful before hr
        obtain ⟨effects, below⟩ := describes.effective.effects
        refine ⟨some message, rfl, fun content isWritten => ?_⟩
        exact ((HasEffect.nested effects below).accepts (depth + 1) _ before).steady_iff.mpr
          ⟨rfl, depth, rfl, message, ⟨inner, isWritten, hm⟩, rfl⟩

/-- Records each of which is a message are a list of messages. -/
theorem exists_map_view {records : List Record}
    (each : ∀ record ∈ records, ∃ message : N, Message.view message = record) :
    ∃ messages : List N, messages.map Message.view = records := by
  induction records with
  | nil => exact ⟨[], rfl⟩
  | cons record records ih =>
    obtain ⟨hf, hr⟩ := List.forall_mem_cons.mp each
    obtain ⟨message, rfl⟩ := hf
    obtain ⟨messages, rfl⟩ := ih hr
    exact ⟨message :: messages, rfl⟩

/-- What is written for messages is written from the description. -/
theorem Describes.mapM_writeRecord (describes : Describes files levels infos N) {depth : Nat}
    (few : levels ≤ depth) (order : EntryOrder) (messages : List N) (place : Nat) :
    (((messages.map Message.view).zipIdx place).mapM fun numbered =>
      writeRecord files (depth + 1) (order.inside numbered.2) infos numbered.1) =
      some ((messages.zipIdx place).map fun numbered =>
        Message.encodeOrdered (order.inside numbered.2) numbered.1) := by
  induction messages generalizing place with
  | nil => rfl
  | cons message messages ih =>
    rw [List.map_cons, List.zipIdx_cons, List.zipIdx_cons, List.map_cons]
    exact mapM_cons_eq_some_iff.mpr ⟨_, _, describes.writeRecord_view few _ message,
      ih (place + 1), rfl⟩

/-- A list of nested messages of a described type is conveyed. -/
theorem repeated_conveys {height : Nat} (describes : Describes files levels infos N)
    (lawful : Message.Lawful N height) :
    Conveys files (levels + 1) (.messages infos) (repeated (N := N)) where
  effective := repeated_hasEffect describes.effective
  blank := rfl
  faithful messages others h :=
    List.map_injective_iff.mpr (describes.view_injective lawful) (Value.records.inj h)
  typed value := by
    constructor
    · rintro ⟨⟩
      next each understood =>
        obtain ⟨messages, rfl⟩ := exists_map_view fun record member =>
          (describes.typed_iff lawful understood record).mp (each record member)
        exact ⟨messages, rfl⟩
    · rintro ⟨messages, rfl⟩
      obtain ⟨kinds, hp, _⟩ := id describes
      refine .records hp fun record member => ?_
      obtain ⟨message, -, rfl⟩ := List.mem_map.mp member
      exact (describes.typed_iff lawful hp _).mpr ⟨message, rfl⟩
  written order depth few number content := by
    obtain ⟨depth, rfl⟩ := Nat.exists_eq_add_one_of_ne_zero (by omega : depth ≠ 0)
    have hw := describes.mapM_writeRecord (by omega : levels ≤ depth) order content 0
    refine ⟨(content.zipIdx.map fun numbered =>
      Message.encodeOrdered (order.inside numbered.2) numbered.1).map .stretch, ?_, ?_⟩
    · simp only [repeated, Kind.write, hw, Option.map_some]
    · simp only [List.flatMap_map]
      rfl
  heard depth number payload before after h := by
    cases payload with
    | number value => cases h
    | stretch inner =>
      obtain ⟨record, hr, rfl⟩ := of_map_ok h
      cases depth with
      | zero => cases hr
      | succ depth =>
        obtain ⟨message, rfl, hm⟩ := describes.mergeAll_of_readRecord lawful none hr
        obtain ⟨effects, below⟩ := describes.effective.effects
        refine ⟨before ++ [message], ?_, fun content isWritten => ?_⟩
        · simp only [repeated, List.map_append, List.map_cons, List.map_nil]
        · exact ((HasEffect.repeated effects below).accepts (depth + 1) _ before).steady_iff.mpr
            ⟨rfl, depth, rfl, message, ⟨inner, isWritten, hm⟩, rfl⟩

/-- What files tell of a message type under a full type name is true, and all there is to know: who
knows nothing else reads what the type writes, and writes what the type reads. -/
structure Told (files : List FileInfo) (typeName : String) (N : Type) [Message N] : Prop where
  /-- Messages that look alike are the same. -/
  faithful : Function.Injective (Message.view (M := N))
  /-- The records of the description are the messages without their type. -/
  typed : ∀ record, TypedAs files typeName record ↔ ∃ message : N, Message.view message = record
  /-- What is written for a message reads back under the names of its fields, and no field in it is
  unknown or has a wire type that is not its own. -/
  read : ∀ (order : EntryOrder), order.Complete → ∀ message : N,
    (Message.encodeOrdered order message).length < octetBound →
      decodeAs files typeName (Message.encodeOrdered order message) = .ok (Message.view message)
  /-- What is written for a record is read as the message that it is. -/
  taken : ∀ (order : EntryOrder), order.Complete → ∀ record, TypedAs files typeName record →
    ∃ bytes, encodeAs files order typeName record = some bytes ∧
      (bytes.length < octetBound →
        ∃ message : N, Message.decode bytes = .ok message ∧ Message.view message = record)
  /-- Whoever wrote octets that read as a record, they are read as the message that it is. -/
  heard : ∀ (bytes : Bytes) (record : Record), decodeAs files typeName bytes = .ok record →
    ∃ message : N, Message.decode bytes = .ok message ∧ Message.view message = record

/-- A true description of few levels tells of the type. -/
theorem Describes.told {height : Nat} (describes : Describes files levels infos N)
    (lawful : Message.Lawful N height) (few : levels ≤ depthLimit) {typeName : String}
    (declared : declared? files typeName = some (.message infos)) : Told files typeName N := by
  have hw : ∀ (order : EntryOrder) (message : N), encodeAs files order typeName
      (Message.view message) = some (Message.encodeOrdered order message) := by
    intro order message
    simp only [encodeAs, declared]
    exact describes.writeRecord_view few order message
  have hh : ∀ (bytes : Bytes) (record : Record), decodeAs files typeName bytes = .ok record →
      ∃ message : N, Message.decode bytes = .ok message ∧ Message.view message = record := by
    intro bytes record h
    simp only [decodeAs, declared] at h
    obtain ⟨message, hv, hm⟩ := describes.mergeAll_of_readRecord lawful none h
    exact ⟨message, hm, hv⟩
  have ht : ∀ record, TypedAs files typeName record ↔
      ∃ message : N, Message.view message = record := by
    intro record
    constructor
    · rintro ⟨fields, parts, hd, hp, typed⟩
      cases declared.symm.trans hd
      exact (describes.typed_iff lawful hp record).mp typed
    · intro exists_message
      obtain ⟨kinds, hp, _⟩ := id describes
      exact ⟨infos, _, declared, hp, (describes.typed_iff lawful hp record).mpr exists_message⟩
  refine ⟨describes.view_injective lawful, ht, ?_, ?_, hh⟩
  · intro order complete message short
    exact decodeAs_of_encodeAs complete (hw order message) short
  · intro order complete record typed
    obtain ⟨message, rfl⟩ := (ht record).mp typed
    refine ⟨_, hw order message, fun short => ?_⟩
    exact hh _ _ (decodeAs_of_encodeAs complete (hw order message) short)

end MediaGateway.Protobuf.Descriptor
