import MediaGateway.Proofs.Protobuf.Message
import MediaGateway.Proofs.Protobuf.Size

/-!
# How many octets values take

The size of a value is the count of the octets that are written for it. What is
read costs no more than twice the octets that it was read from when it is written
again: a number of 32 bits may be read from five octets and take ten, and nothing
else takes more than it came with.
-/

namespace MediaGateway.Protobuf

namespace Shape

variable {α : Type}

/-- A shape whose sizes count octets and whose reading is thrifty. -/
structure Measured (shape : Shape α) : Prop where
  /-- The size of a value that fits in 64 bits is the count of its octets. -/
  counted : ∀ (order : EntryOrder), order.Complete → ∀ number < numberBound, ∀ value,
    shape.size number value < octetBound →
      shape.size number value = (shape.write order number value).length
  /-- A blank value is not written. -/
  blank : ∀ (order : EntryOrder), order.Complete → ∀ number,
    shape.write order number shape.blank = []
  /-- An occurrence adds no more octets than twice those of its key and its content. -/
  thrifty : ∀ (order : EntryOrder), order.Complete → ∀ number depth wire before bytes after rest,
    shape.read depth wire before bytes = .ok (after, rest) →
      (shape.write order number after).length + 2 * rest.length ≤
        (shape.write order number before).length + 2 * bytes.length + 2 * keyLength number

/-- The keys of fields fit in 64 bits. -/
theorem key_lt {number : Nat} (hn : number < numberBound) : number * 8 + 2 < octetBound := by
  have hb : numberBound = 536870912 := rfl
  exact Nat.lt_trans (by omega : number * 8 + 2 < 4294967296) (by decide)

/-- The size of a delimited field that fits in 64 bits is the count of its octets when that of its
content is. -/
theorem delimitedSize_eq {number size : Nat} (hn : number < numberBound) {content : Bytes}
    (h : size < octetBound → size = content.length) (hs : delimitedSize number size < octetBound) :
    delimitedSize number size = (writeContent number content).length := by
  have hk : varintSize (number * 8 + 2) = (writeKey number .lengthDelimited).length :=
    varintSize_eq (key_lt hn)
  have hl : size < octetBound := by
    rw [delimitedSize] at hs
    omega
  obtain rfl := h hl
  simp only [delimitedSize, hk, varintSize_eq hl, writeContent, writeDelimited, List.length_append]
  omega

/-- The octets of a delimited field are those of its key, its length and its content. -/
theorem writeContent_length (number : Nat) (content : Bytes) :
    (writeContent number content).length =
      keyLength number + (writeDelimited content).length := by
  rw [writeContent, List.length_append, writeKey_length, keyLength]

/-- The size of a field that holds one number is the count of its octets. -/
theorem varintFieldSize_eq {number value : Nat} (hn : number < numberBound)
    (hv : value < octetBound) :
    varintFieldSize number value = (writeNumber number value).length := by
  have hk : number * 8 < octetBound := Nat.lt_trans (by omega) (key_lt hn)
  rw [varintFieldSize, varintSize_eq hk, varintSize_eq hv, writeNumber, List.length_append,
    writeKey_length]

/-- The octets of a field that holds one number are those of its key and the number. -/
theorem writeNumber_length (number value : Nat) :
    (writeNumber number value).length = keyLength number + (writeVarint value).length := by
  rw [writeNumber, List.length_append, writeKey_length, keyLength]

/-- A reader that insists on a wire type reads what the reader behind it reads. -/
theorem of_expecting {β : Type} {expected found : WireType} {reader : Reading β}
    {result : β × Bytes} (h : expecting expected found reader = .ok result) :
    reader = .ok result := by
  rw [expecting] at h
  split at h
  · exact h
  · cases h

/-- What is made of a result was made of one. -/
theorem of_map_ok {ε β γ : Type} {f : β → γ} {result : Except ε β} {made : γ}
    (h : result.map f = .ok made) : ∃ value, result = .ok value ∧ f value = made := by
  cases result with
  | error problem => cases h
  | ok value => exact ⟨value, rfl, Except.ok.inj h⟩

/-- A text is read together with its length. -/
theorem length_le_of_readText {bytes rest : Bytes} {value : String}
    (h : readText bytes = .ok (value, rest)) :
    (writeDelimited (Bytes.ofText value)).length + rest.length ≤ bytes.length := by
  rw [readText] at h
  split at h
  · cases h
  next content after hr =>
    split at h
    next found hc =>
      cases h
      rw [Bytes.ofText_of_toText hc]
      exact length_le_of_readDelimited hr
    · cases h

/-- A text takes no more octets than those of its key, its length and itself. -/
theorem text_write_le (order : EntryOrder) (number : Nat) (value : String) :
    (text.write order number value).length ≤
      keyLength number + (writeDelimited (Bytes.ofText value)).length := by
  by_cases hv : value = ""
  · rw [hv, text_write_blank, List.length_nil]
    omega
  · simp only [text, if_neg hv, writeContent_length]
    exact Nat.le_refl _

/-- Texts are measured. -/
theorem text_measured : Measured text where
  counted order _ number hn value hs := by
    by_cases hv : value = ""
    · simp only [text, hv, if_true, List.length_nil]
    · simp only [text, hv, if_false] at hs ⊢
      exact delimitedSize_eq hn (fun _ => (Bytes.ofText_length value).symm) hs
  blank _ _ _ := rfl
  thrifty order _ number depth wire before bytes after rest h := by
    have hr := length_le_of_readText (of_expecting h)
    have hw := text_write_le order number after
    omega

/-- Octets are measured. -/
theorem octets_measured : Measured octets where
  counted order _ number hn value hs := by
    by_cases hv : value = []
    · simp only [octets, hv, if_true, List.length_nil]
    · simp only [octets, hv, if_false] at hs ⊢
      exact delimitedSize_eq hn (fun _ => rfl) hs
  blank _ _ _ := rfl
  thrifty order _ number depth wire before bytes after rest h := by
    have hr := length_le_of_readDelimited (of_expecting h)
    by_cases hv : after = []
    · simp only [octets, hv, if_true, List.length_nil]
      omega
    · simp only [octets, hv, if_false, writeContent_length]
      omega

/-- Signed integers of 64 bits are measured. -/
theorem int64_measured : Measured int64 where
  counted order _ number hn value hs := by
    by_cases hv : value = 0
    · simp only [int64, hv, if_true, List.length_nil]
    · simp only [int64, hv, if_false]
      exact varintFieldSize_eq hn value.toUInt64.toNat_lt
  blank _ _ _ := rfl
  thrifty order _ number depth wire before bytes after rest h := by
    obtain ⟨⟨value, left⟩, hr, he⟩ := of_map_ok (of_expecting h)
    obtain ⟨rfl, rfl⟩ := Prod.mk.inj he
    have hv := writeVarint_length_le_of_readVarint hr
    have hm : (writeVarint (UInt64.ofNat value).toInt64.toUInt64.toNat).length ≤
        (writeVarint value).length := by
      refine writeVarint_length_mono ?_
      rw [UInt64.toUInt64_toInt64, UInt64.toNat_ofNat']
      exact Nat.mod_le _ _
    by_cases hz : (UInt64.ofNat value).toInt64 = 0
    · simp only [int64, hz, if_true, List.length_nil]
      omega
    · simp only [int64, hz, if_false, writeNumber_length]
      omega

/-- The low half of a number takes no more than twice its octets when it is widened. -/
theorem widened_length_le (value : Nat) :
    (writeVarint (UInt32.ofNat value).toInt32.toInt64.toUInt64.toNat).length ≤
      2 * (writeVarint value).length := by
  have hb : (UInt32.ofNat value).toInt32.toInt64.toUInt64.toNat =
      (BitVec.signExtend 64 (BitVec.ofNat 32 value)).toNat := rfl
  rw [hb, BitVec.toNat_signExtend, BitVec.msb_eq_decide, BitVec.toNat_setWidth, BitVec.toNat_ofNat]
  by_cases hm : 2 ^ (32 - 1) ≤ value % 2 ^ 32
  · have hp : Nat.pow 128 (3 + 1) = 268435456 := rfl
    have hq : Nat.pow 128 (9 + 1) = 1180591620717411303424 := rfl
    have hf := writeVarint_length_le_iff 3 value
    rw [decide_eq_true hm, if_pos rfl]
    have hw := (writeVarint_length_le_iff 9
      (value % 2 ^ 32 % 2 ^ 64 + (2 ^ 64 - 2 ^ 32))).mpr (by omega)
    omega
  · rw [decide_eq_false hm, if_neg Bool.false_ne_true, Nat.add_zero]
    have hl := writeVarint_length_mono (by omega : value % 2 ^ 32 % 2 ^ 64 ≤ value)
    omega

/-- Signed integers of 32 bits are measured. -/
theorem int32_measured : Measured int32 where
  counted order _ number hn value hs := by
    by_cases hv : value = 0
    · simp only [int32, hv, if_true, List.length_nil]
    · simp only [int32, hv, if_false]
      exact varintFieldSize_eq hn value.toInt64.toUInt64.toNat_lt
  blank _ _ _ := rfl
  thrifty order _ number depth wire before bytes after rest h := by
    obtain ⟨⟨value, left⟩, hr, he⟩ := of_map_ok (of_expecting h)
    obtain ⟨rfl, rfl⟩ := Prod.mk.inj he
    have hv := writeVarint_length_le_of_readVarint hr
    have hm := widened_length_le value
    by_cases hz : (UInt32.ofNat value).toInt32 = 0
    · simp only [int32, hz, if_true, List.length_nil]
      omega
    · simp only [int32, hz, if_false, writeNumber_length]
      omega

/-- Truth values are measured. -/
theorem flag_measured : Measured flag where
  counted order _ number hn value hs := by
    cases value with
    | false => rfl
    | true =>
      simp only [flag, if_true]
      exact varintFieldSize_eq hn (by decide)
  blank _ _ _ := rfl
  thrifty order _ number depth wire before bytes after rest h := by
    obtain ⟨⟨value, left⟩, hr, he⟩ := of_map_ok (of_expecting h)
    obtain ⟨rfl, rfl⟩ := Prod.mk.inj he
    have hv := writeVarint_length_le_of_readVarint hr
    have hp := writeVarint_length_pos value
    have ho := writeVarint_length_of_lt (by decide : 1 < 128)
    cases hz : value != 0 with
    | false =>
      simp only [flag, Bool.false_eq_true, if_false, List.length_nil]
      omega
    | true =>
      simp only [flag, if_true, writeNumber_length, ho]
      omega

/-- A total of sizes counts the octets of items written one after another. -/
theorem total_eq.{u} {ι : Type u} {size : ι → Nat} {write : ι → Bytes} (items : List ι)
    (h : ∀ item ∈ items, size item < octetBound → size item = (write item).length)
    (hs : total (items.map size) < octetBound) :
    total (items.map size) = (items.flatMap write).length := by
  induction items with
  | nil => rfl
  | cons item items ih =>
    have ht : total ((item :: items).map size) = size item + total (items.map size) := rfl
    rw [ht] at hs ⊢
    rw [List.flatMap_cons, List.length_append, h item List.mem_cons_self (by omega),
      ih (fun other ho => h other (List.mem_cons_of_mem _ ho)) (by omega)]

/-- Lists of texts are measured. -/
theorem texts_measured : Measured texts where
  counted order _ number hn values hs := by
    exact total_eq values (fun value _ hv =>
      delimitedSize_eq hn (fun _ => (Bytes.ofText_length value).symm) hv) hs
  blank _ _ _ := rfl
  thrifty order _ number depth wire before bytes after rest h := by
    obtain ⟨⟨value, left⟩, hr, he⟩ := of_map_ok (of_expecting h)
    obtain ⟨rfl, rfl⟩ := Prod.mk.inj he
    have ht := length_le_of_readText hr
    simp only [texts, List.flatMap_append, List.flatMap_cons, List.flatMap_nil, List.append_nil,
      List.length_append, writeContent_length]
    omega

/-- Contents that grew by no more than twice the octets of a length and what is behind it grew by
no more with their own length in front. -/
theorem writeDelimited_le {content : Bytes} {before length : Nat}
    (h : content.length ≤ before + 2 * length) :
    (writeDelimited content).length ≤
      (writeVarint before).length + before + 2 * ((writeVarint length).length + length) := by
  have hm := writeVarint_length_mono h
  have ha := writeVarint_length_add before (2 * length)
  have ht := writeVarint_length_add length length
  have hb := writeVarint_length_pos before
  have hl := writeVarint_length_pos length
  rw [Nat.two_mul] at ha hm
  rw [writeDelimited, List.length_append]
  omega

/-- The fields of an entry are merged thriftily. -/
theorem mergeEntry_thrifty (depth : Nat) :
    Thrifty (fun entry => (writeEntry entry).length) (mergeEntry depth) := by
  intro entry number wire bytes next rest h
  simp only [writeEntry, List.length_append]
  rw [mergeEntry] at h
  split at h
  next hn =>
    subst hn
    obtain ⟨⟨key, left⟩, hr, he⟩ := of_map_ok h
    obtain ⟨rfl, rfl⟩ := Prod.mk.inj he
    have ht := text_measured.thrifty .byKey byKey_complete 1 _ _ _ _ _ _ hr
    dsimp only
    omega
  next =>
    split at h
    next hn =>
      subst hn
      obtain ⟨⟨value, left⟩, hr, he⟩ := of_map_ok h
      obtain ⟨rfl, rfl⟩ := Prod.mk.inj he
      have ht := text_measured.thrifty .byKey byKey_complete 2 _ _ _ _ _ _ hr
      dsimp only
      omega
    next =>
      obtain ⟨left, hr, he⟩ := of_map_ok h
      obtain ⟨rfl, rfl⟩ := Prod.mk.inj he
      have hl := length_le_of_skipField hr
      omega

/-- Setting a key adds no more octets than those of its entry. -/
theorem put_length_le (write : String × String → Bytes) (key value : String)
    (entries : List (String × String)) :
    ((TextMap.put key value entries).flatMap write).length ≤
      (entries.flatMap write).length + (write (key, value)).length := by
  induction entries with
  | nil =>
    rw [TextMap.put, List.flatMap_cons, List.length_append]
    omega
  | cons first entries ih =>
    obtain ⟨name, old⟩ := first
    rw [TextMap.put]
    split
    · rw [List.flatMap_cons, List.length_append]
      omega
    · split
      · rw [List.flatMap_cons, List.flatMap_cons, List.length_append, List.length_append]
        omega
      · rw [List.flatMap_cons, List.flatMap_cons, List.length_append, List.length_append]
        omega

/-- The order of the entries of a map does not change the count of its octets. -/
theorem table_write_length {order : EntryOrder} (complete : order.Complete) (number : Nat)
    (map : TextMap) :
    (table.write order number map).length =
      (map.entries.flatMap fun entry => writeContent number (writeEntry entry)).length :=
  ((complete [] map).flatMap_right _).length_eq

/-- The size of an entry is the count of its octets. -/
theorem entrySize_eq {entry : String × String} (hs : entrySize entry < octetBound) :
    entrySize entry = (writeEntry entry).length := by
  rw [entrySize] at hs
  rw [entrySize, writeEntry, List.length_append,
    text_measured.counted .byKey byKey_complete 1 (by decide) entry.1 (by omega),
    text_measured.counted .byKey byKey_complete 2 (by decide) entry.2 (by omega)]

/-- Maps are measured. -/
theorem table_measured : Measured table where
  counted order complete number hn map hs := by
    rw [table_write_length complete]
    exact total_eq map.entries (fun entry _ he => delimitedSize_eq hn entrySize_eq he) hs
  blank order complete number := by
    have he : order [] TextMap.empty = [] := (complete [] TextMap.empty).eq_nil
    simp only [table, he, List.flatMap_nil]
  thrifty order complete number depth wire before bytes after rest h := by
    cases depth with
    | zero => cases h
    | succ depth =>
      obtain ⟨⟨⟨key, value⟩, left⟩, hr, he⟩ := of_map_ok h
      obtain ⟨rfl, rfl⟩ := Prod.mk.inj he
      obtain ⟨length, hc, hl⟩ := (mergeEntry_thrifty depth).mergeDelimited_le hr
      have hz : (writeEntry ("", "")).length = 0 := rfl
      have hd : (writeDelimited (writeEntry (key, value))).length ≤
          (writeVarint 0).length + 0 + 2 * ((writeVarint length).length + length) :=
        writeDelimited_le (by omega)
      have hw := writeVarint_length_of_lt (by decide : 0 < 128)
      have hp := put_length_le (fun entry => writeContent number (writeEntry entry)) key value
        before.entries
      have hk := keyLength_pos number
      simp only [writeContent_length] at hp
      simp only [table_write_length complete, TextMap.insert]
      omega

end Shape

variable {M : Type} [Message M]

/-- What is written for a field of a message. -/
def Field.written (order : EntryOrder) (message : M) (field : Field M) : Bytes :=
  field.shape.write (order.inside field.number) field.number (field.get message)

/-- Setting a field changes the octets of that field only. -/
theorem Field.written_set {order : EntryOrder} {fields : List (Field M)}
    (placed : Everywhere Field.Placed fields) (apart : Apart fields) {field : Field M}
    (member : field ∈ fields) (message : M) (value : field.Carrier) :
    (fields.flatMap (Field.written order (field.set message value))).length +
        (field.written order message).length =
      (fields.flatMap (Field.written order message)).length +
        (field.shape.write (order.inside field.number) field.number value).length := by
  induction fields with
  | nil => exact absurd member List.not_mem_nil
  | cons first fields ih =>
    obtain ⟨hf, hp⟩ := placed
    obtain ⟨ho, ha⟩ := apart
    simp only [List.flatMap_cons, List.length_append]
    rcases List.mem_cons.mp member with rfl | deeper
    · have hr : fields.flatMap (Field.written order (field.set message value)) =
          fields.flatMap (Field.written order message) := by
        rw [List.flatMap_def, List.flatMap_def, List.map_congr_left fun other hm => ?_]
        rw [Field.written, Field.written, (ho.of_mem hm).1]
      rw [hr, Field.written, hf.get_set]
      omega
    · have hk : Field.written order (field.set message value) first =
          Field.written order message first := by
        rw [Field.written, Field.written, (ho.of_mem deeper).2]
      have ht := ih hp ha deeper
      rw [hk]
      omega

namespace Message

variable {levels : Nat}

/-- A message type whose lengths count octets and whose reading is thrifty. -/
structure Measured (M : Type) [Message M] : Prop where
  /-- The length of a message that fits in 64 bits is the count of its octets. -/
  counted : ∀ (order : EntryOrder), order.Complete → ∀ message : M,
    encodedLength message < octetBound →
      encodedLength message = (encodeOrdered order message).length
  /-- A blank message takes no octets. -/
  blank : ∀ (order : EntryOrder), order.Complete →
    encodeOrdered order (Message.blank : M) = []
  /-- Merging a field is thrifty at every level of nesting. -/
  thrifty : ∀ (order : EntryOrder), order.Complete → ∀ depth,
    Thrifty (fun message : M => (encodeOrdered order message).length) (mergeField depth)

/-- A lawful message type is measured when the shapes of its fields are. -/
theorem Lawful.measured (lawful : Message.Lawful M levels)
    (shapes : Everywhere (fun field => field.shape.Measured) (Message.fields (M := M))) :
    Measured M where
  counted order complete message hs :=
    Shape.total_eq _ (fun field member hv => (shapes.of_mem member).counted _
      (complete.inside _) _ (lawful.number_bounds member).2 _ hv) hs
  blank order complete := by
    refine List.flatMap_eq_nil_iff.mpr fun field member => ?_
    rw [(lawful.placed.of_mem member).get_blank]
    exact (shapes.of_mem member).blank _ (complete.inside _) _
  thrifty order complete depth := by
    intro message number wire bytes next rest h
    rw [mergeField] at h
    split at h
    · obtain ⟨left, hr, he⟩ := Shape.of_map_ok h
      obtain ⟨rfl, rfl⟩ := Prod.mk.inj he
      have hl := length_le_of_skipField hr
      omega
    next field hf =>
      have member : field ∈ Message.fields (M := M) := List.mem_of_find?_eq_some hf
      have hn : field.number = number := by
        simpa only [decide_eq_true_eq] using List.find?_some hf
      subst hn
      split at h
      next value left hr =>
        cases h
        have hw : (encodeOrdered order (field.set message value)).length +
            (field.written order message).length =
          (encodeOrdered order message).length + (field.shape.write _ _ value).length :=
          Field.written_set lawful.placed lawful.apart member message value
        rw [Field.written] at hw
        have hv := (shapes.of_mem member).thrifty _ (complete.inside field.number) field.number
          depth wire _ bytes _ _ hr
        dsimp only
        omega
      · cases h

/-- What is read takes no more than twice the octets that it was read from. -/
theorem Measured.length_le_of_decode (measured : Measured M) {order : EntryOrder}
    (complete : order.Complete) {bytes : Bytes} {message : M} (h : decode bytes = .ok message) :
    (encodeOrdered order message).length ≤ 2 * bytes.length := by
  have hm := (measured.thrifty order complete depthLimit).mergeAll_le h
  rw [measured.blank order complete, List.length_nil] at hm
  omega

end Message

namespace Shape

variable {N : Type} [Message N]

/-- A nested message that may be absent is measured. -/
theorem nested_measured (measured : Message.Measured N) : Measured (nested (N := N)) where
  counted order complete number hn value hs := by
    cases value with
    | none => rfl
    | some message =>
      simp only [nested] at hs ⊢
      exact delimitedSize_eq hn (measured.counted order complete message) hs
  blank _ _ _ := rfl
  thrifty order complete number depth wire before bytes after rest h := by
    cases depth with
    | zero => cases of_expecting h
    | succ depth =>
      obtain ⟨⟨merged, left⟩, hr, he⟩ := of_map_ok (of_expecting h)
      obtain ⟨rfl, rfl⟩ := Prod.mk.inj he
      obtain ⟨length, hc, hl⟩ := (measured.thrifty order complete depth).mergeDelimited_le hr
      have hk := keyLength_pos number
      have hd := writeDelimited_le hc
      cases before with
      | none =>
        have hb : (Message.encodeOrdered order (Message.blank : N)).length = 0 := by
          rw [measured.blank order complete, List.length_nil]
        have hw := writeVarint_length_of_lt (by decide : 0 < 128)
        simp only [nested, Option.getD_none, hb, hw, writeContent_length, List.length_nil] at hd ⊢
        omega
      | some message =>
        have hb : (writeDelimited (Message.encodeOrdered order message)).length =
            (writeVarint (Message.encodeOrdered order message).length).length +
              (Message.encodeOrdered order message).length := List.length_append
        simp only [nested, Option.getD_some, writeContent_length, hb] at hd ⊢
        omega

/-- Lists of nested messages are measured. -/
theorem repeated_measured (measured : Message.Measured N) : Measured (repeated (N := N)) where
  counted order complete number hn messages hs := by
    -- The octets go over the places in the list too, so the sizes are taken over them.
    have hm : (repeated (N := N)).size number messages =
        total (messages.zipIdx.map fun item =>
          delimitedSize number (Message.encodedLength item.1)) := by
      have hf : messages.map (fun message => delimitedSize number (Message.encodedLength message)) =
          (messages.zipIdx.map Prod.fst).map
            fun message => delimitedSize number (Message.encodedLength message) := by
        rw [List.zipIdx_map_fst]
      rw [List.map_map] at hf
      exact congrArg total hf
    rw [hm] at hs ⊢
    exact total_eq messages.zipIdx (fun item _ hi =>
      delimitedSize_eq hn (measured.counted (order.inside item.2) (complete.inside _) item.1) hi) hs
  blank _ _ _ := rfl
  thrifty order complete number depth wire before bytes after rest h := by
    cases depth with
    | zero => cases of_expecting h
    | succ depth =>
      obtain ⟨⟨message, left⟩, hr, he⟩ := of_map_ok (of_expecting h)
      obtain ⟨rfl, rfl⟩ := Prod.mk.inj he
      have hi := complete.inside before.length
      obtain ⟨length, hc, hl⟩ := (measured.thrifty _ hi depth).mergeDelimited_le hr
      rw [measured.blank _ hi, List.length_nil] at hc
      have hd := writeDelimited_le hc
      have hk := keyLength_pos number
      have hw := writeVarint_length_of_lt (by decide : 0 < 128)
      simp only [repeated, List.zipIdx_append, List.zipIdx_singleton, List.flatMap_append,
        List.flatMap_cons, List.flatMap_nil, List.append_nil, List.length_append,
        writeContent_length, Nat.zero_add]
      omega

end Shape

end MediaGateway.Protobuf
