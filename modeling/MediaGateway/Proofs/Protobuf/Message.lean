import MediaGateway.Proofs.Protobuf.Shape
import MediaGateway.Protobuf.Message

/-!
# Reading back messages

A message type is lawful when its fields have numbers of their own, each field is
a place of its own in the message, the places make up the message, and the
shapes are sound. What is written for a message of a lawful type reads back as
the message, whatever the order in which the entries of its maps are written.
-/

namespace MediaGateway.Protobuf

variable {M : Type}

/-- A field is found by its number among fields whose numbers ascend. -/
theorem Field.find_number {fields : List (Field M)}
    (ascending : fields.Pairwise fun former latter => former.number < latter.number)
    {field : Field M} (member : field ∈ fields) :
    (fields.find? fun other => other.number = field.number) = some field := by
  induction fields with
  | nil => exact absurd member List.not_mem_nil
  | cons first rest ih =>
    obtain ⟨ahead, later⟩ := List.pairwise_cons.mp ascending
    rcases List.mem_cons.mp member with rfl | deeper
    · rw [List.find?_cons_of_pos (by simp only [decide_true])]
    · have hn := ahead field deeper
      rw [List.find?_cons_of_neg (by simp only [decide_eq_true_eq]; omega), ih later deeper]

/-- All of some fields are alike in something. -/
def Everywhere (holds : Field M → Prop) : List (Field M) → Prop
  | [] => True
  | field :: fields => holds field ∧ Everywhere holds fields

/-- What holds everywhere holds of each field. -/
theorem Everywhere.of_mem {holds : Field M → Prop} {fields : List (Field M)}
    (h : Everywhere holds fields) {field : Field M} (member : field ∈ fields) : holds field := by
  induction fields with
  | nil => exact absurd member List.not_mem_nil
  | cons first rest ih =>
    obtain ⟨hf, hr⟩ := h
    rcases List.mem_cons.mp member with rfl | deeper
    · exact hf
    · exact ih hr deeper

/-- Setting one of some fields leaves the others alone. -/
def Apart : List (Field M) → Prop
  | [] => True
  | field :: fields =>
    Everywhere (fun other =>
      (∀ message value, other.get (field.set message value) = other.get message) ∧
        ∀ message value, field.get (other.set message value) = field.get message) fields ∧
      Apart fields

variable [Message M]

/-- A field with a place of its own in the message. -/
structure Field.Placed (field : Field M) : Prop where
  /-- What is set is there. -/
  get_set : ∀ message value, field.get (field.set message value) = value
  /-- Setting what is there changes nothing. -/
  set_get : ∀ message, field.set message (field.get message) = message
  /-- Setting twice is setting once. -/
  set_set : ∀ message former latter,
    field.set (field.set message former) latter = field.set message latter
  /-- The field is blank in a blank message. -/
  get_blank : field.get Message.blank = field.shape.blank

/-- A message type whose values read back, once so many levels of nesting are left. -/
structure Message.Lawful (M : Type) [Message M] (levels : Nat) : Prop where
  /-- Numbers ascend; zero is no number, and a key has room for each. -/
  numbered : (0 :: ((Message.fields (M := M)).map Field.number ++ [numberBound])).Pairwise (· < ·)
  /-- Every field has its place. -/
  placed : Everywhere Field.Placed (Message.fields (M := M))
  /-- The places are apart. -/
  apart : Apart (Message.fields (M := M))
  /-- The places make up the message. -/
  rebuilt : ∀ message : M,
    Message.fields.foldl (fun built field => field.set built (field.get message))
      Message.blank = message
  /-- What is written for a field reads back. -/
  sound : Everywhere (fun field => field.shape.Sound levels) (Message.fields (M := M))

namespace Message

variable {levels : Nat}

/-- The numbers of a lawful message ascend. -/
theorem Lawful.ascending (lawful : Message.Lawful M levels) :
    (Message.fields (M := M)).Pairwise fun former latter => former.number < latter.number := by
  have hn := (List.pairwise_cons.mp lawful.numbered).2
  exact List.pairwise_map.mp (List.pairwise_append.mp hn).1

/-- The number of a field of a lawful message is one that the wire has. -/
theorem Lawful.number_bounds (lawful : Message.Lawful M levels) {field : Field M}
    (member : field ∈ Message.fields (M := M)) : 0 < field.number ∧ field.number < numberBound := by
  obtain ⟨hz, hn⟩ := List.pairwise_cons.mp lawful.numbered
  have hm := List.mem_map_of_mem (f := Field.number) member
  exact ⟨hz _ (List.mem_append_left _ hm),
    (List.pairwise_append.mp hn).2.2 _ hm _ (List.mem_singleton_self _)⟩

/-- Reading a field merges it into the message. -/
theorem mergeField_eq (lawful : Message.Lawful M levels) {field : Field M}
    (member : field ∈ Message.fields (M := M)) {depth : Nat} {wire : WireType} {message : M}
    {content rest : Bytes} {value : field.Carrier}
    (hread : field.shape.read depth wire (field.get message) content = .ok (value, rest)) :
    mergeField depth message field.number wire content = .ok (field.set message value, rest) := by
  simp only [mergeField, fieldNumbered?, Field.find_number lawful.ascending member, hread]

/-- What is written for a field that is blank so far sets it. -/
theorem field_merged (lawful : Message.Lawful M levels) {field : Field M}
    (member : field ∈ Message.fields (M := M)) {order : EntryOrder} (complete : order.Complete)
    {depth : Nat} (hd : levels ≤ depth) {state : M} (hb : field.get state = field.shape.blank)
    (value : field.Carrier)
    (hl : (field.shape.write order field.number value).length < octetBound) :
    Merged (mergeField depth) state (field.shape.write order field.number value)
      (field.set state value) := by
  have hf := lawful.placed.of_mem member
  have ho := lawful.sound.of_mem member order complete depth hd field.number value hl
  have hs : field.set state field.shape.blank = state := by rw [← hb, hf.set_get]
  obtain ⟨hz, hn⟩ := lawful.number_bounds member
  have hm := ho.lift hz hn (mergeField depth) (field.set state)
    (fun wire former latter content rest hread => by
      have hr : field.shape.read depth wire (field.get (field.set state former)) content =
          .ok (latter, rest) := by rwa [hf.get_set]
      rw [mergeField_eq lawful member hr, hf.set_set])
  rwa [hs] at hm

/-- What is written for fields that are blank so far sets one after the other. -/
theorem fields_merged (lawful : Message.Lawful M levels) {order : EntryOrder}
    (complete : order.Complete) {depth : Nat} (hd : levels ≤ depth) (message : M)
    {fields : List (Field M)} (members : fields ⊆ Message.fields (M := M)) (apart : Apart fields)
    {state : M} (blank : ∀ field ∈ fields, field.get state = field.shape.blank)
    (hl : (fields.flatMap fun field =>
      field.shape.write (order.inside field.number) field.number (field.get message)).length
        < octetBound) :
    Merged (mergeField depth) state
      (fields.flatMap fun field =>
        field.shape.write (order.inside field.number) field.number (field.get message))
      (fields.foldl (fun built field => field.set built (field.get message)) state) := by
  induction fields generalizing state with
  | nil => exact .done _
  | cons field fields ih =>
    obtain ⟨ho, ha⟩ := apart
    obtain ⟨hf, hr⟩ := List.cons_subset.mp members
    rw [List.flatMap_cons] at hl ⊢
    rw [List.length_append] at hl
    have hm := field_merged lawful hf (complete.inside field.number) hd
      (blank field List.mem_cons_self) (field.get message) (by omega)
    refine hm.append (ih hr ha ?_ (by omega))
    intro other member
    rw [(ho.of_mem member).1, blank other (List.mem_cons_of_mem _ member)]

/-- The octets of a message take the blank message to it. -/
theorem encodeOrdered_merged (lawful : Message.Lawful M levels) {order : EntryOrder}
    (complete : order.Complete) {depth : Nat} (hd : levels ≤ depth) (message : M)
    (hl : (encodeOrdered order message).length < octetBound) :
    Merged (mergeField depth) Message.blank (encodeOrdered order message) message := by
  have hm := fields_merged lawful complete hd message (List.Subset.refl _) lawful.apart
    (fun field member => (lawful.placed.of_mem member).get_blank) hl
  rwa [lawful.rebuilt] at hm

/-- The octets of a message read back as the message, whatever the order of its entries. -/
theorem decode_encodeOrdered (lawful : Message.Lawful M levels) {order : EntryOrder}
    (complete : order.Complete) (hd : levels ≤ depthLimit) (message : M)
    (hl : (encodeOrdered order message).length < octetBound) :
    decode (encodeOrdered order message) = .ok message :=
  (encodeOrdered_merged lawful complete hd message hl).mergeAll_eq

end Message

namespace Shape

variable {N : Type} [Message N]

/-- An absent message is not written. -/
@[simp] theorem nested_write_blank (order : EntryOrder) (number : Nat) :
    (nested (N := N)).write order number none = [] := rfl

/-- A list without messages is not written. -/
@[simp] theorem repeated_write_blank (order : EntryOrder) (number : Nat) :
    (repeated (N := N)).write order number [] = [] := rfl

/-- A nested message that may be absent reads back, one level of nesting below. -/
theorem nested_sound {levels : Nat} (lawful : Message.Lawful N levels) :
    Sound (levels + 1) (nested (N := N)) := by
  intro order complete depth hd number value hl
  cases value with
  | none => exact .done _
  | some message =>
    obtain ⟨depth, rfl⟩ := Nat.exists_eq_add_one_of_ne_zero (by omega : depth ≠ 0)
    have hc := Nat.lt_trans (length_lt_writeContent number _) hl
    have hm := Message.encodeOrdered_merged lawful complete (by omega : levels ≤ depth) message hc
    refine .single fun rest => ?_
    simp only [nested, expecting_self, Option.getD_none, hm.mergeDelimited_eq hc, Except.map]

/-- Messages are read onto those before them. -/
theorem repeated_occurs {levels : Nat} (lawful : Message.Lawful N levels) {order : EntryOrder}
    (complete : order.Complete) {depth : Nat} (hd : levels ≤ depth) (number place : Nat)
    (messages before : List N)
    (hl : ((messages.zipIdx place).flatMap fun (message, place) =>
      writeContent number (Message.encodeOrdered (order.inside place) message)).length
        < octetBound) :
    Occurs repeated (depth + 1) number before
      ((messages.zipIdx place).flatMap fun (message, place) =>
        writeContent number (Message.encodeOrdered (order.inside place) message))
      (before ++ messages) := by
  induction messages generalizing place before with
  | nil =>
    rw [List.append_nil]
    exact .done _
  | cons message messages ih =>
    rw [List.zipIdx_cons, List.flatMap_cons] at hl ⊢
    obtain ⟨hc, ht⟩ := length_lt_of_cons hl
    have hm := Message.encodeOrdered_merged lawful (complete.inside place) hd message hc
    have hs : before ++ message :: messages = before ++ [message] ++ messages := by
      rw [List.append_assoc, List.singleton_append]
    rw [hs]
    refine .once (fun rest => ?_) (ih (place + 1) (before ++ [message]) ht)
    simp only [repeated, expecting_self, hm.mergeDelimited_eq hc, Except.map]

/-- A list of nested messages reads back, one level of nesting below. -/
theorem repeated_sound {levels : Nat} (lawful : Message.Lawful N levels) :
    Sound (levels + 1) (repeated (N := N)) := by
  intro order complete depth hd number value hl
  obtain ⟨depth, rfl⟩ := Nat.exists_eq_add_one_of_ne_zero (by omega : depth ≠ 0)
  exact repeated_occurs lawful complete (by omega) number 0 value [] hl

end Shape

end MediaGateway.Protobuf
