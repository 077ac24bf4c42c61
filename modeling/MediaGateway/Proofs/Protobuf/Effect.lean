import MediaGateway.Proofs.Protobuf.Merging

/-!
# What an occurrence does

The shapes of the service's fields have few effects. A single value is replaced by
what is written, whether or not that is the blank one; a text is added at the end of a
list of texts; an entry is put into a map under its key; the fields of a nested message
are merged into the message that is there; and a list of messages grows by one that
begins blank. A message whose fields have such effects is merged one occurrence at a
time, and fields that it does not list do nothing.
-/

namespace MediaGateway.Protobuf

variable {α : Type}

/-- A text behind its length. -/
def IsText (content : Bytes) (text : String) : Prop := IsStretch content (Bytes.ofText text)

/-- A number whose bits are taken for a value. -/
def IsTaken (take : Nat → α) (content : Bytes) (value : α) : Prop :=
  ∃ number, IsNumber content number ∧ value = take number

/-- What one field of a map entry does to its key and its value, given the levels of nesting that
are left: the key stands under 1, the value under 2, a later one in place of an earlier one, and
any other whole field does nothing. -/
inductive EntryStep (depth : Nat) :
    String × String → Nat → WireType → Bytes → String × String → Prop where
  /-- The key is written. -/
  | key {before key value : String} {content : Bytes} (written : IsText content key) :
    EntryStep depth (before, value) 1 .lengthDelimited content (key, value)
  /-- The value is written. -/
  | value {key before value : String} {content : Bytes} (written : IsText content value) :
    EntryStep depth (key, before) 2 .lengthDelimited content (key, value)
  /-- A field that an entry does not have. -/
  | other {entry : String × String} {number : Nat} {wire : WireType} {content : Bytes}
    (noKey : number ≠ 1) (noValue : number ≠ 2) (whole : WellFormed depth number wire content) :
    EntryStep depth entry number wire content entry

/-- A map entry behind its length: its fields, one after another, from the blank key and the blank
value on. -/
def IsEntry (depth : Nat) (content : Bytes) (entry : String × String) : Prop :=
  ∃ inner, IsStretch content inner ∧ Run (EntryStep depth) ("", "") inner entry

/-- What an occurrence does to a value, given the levels of nesting that are left, the wire type
and the octets behind the key. -/
abbrev Effect (α : Type) : Type := Nat → WireType → α → Bytes → α → Prop

namespace Effect

/-- The value is replaced by the one that is written. -/
def replacing (expected : WireType) (written : Bytes → α → Prop) : Effect α :=
  fun _ wire _ content after => wire = expected ∧ written content after

/-- The list grows at its end by what is written. -/
def appending (written : Bytes → α → Prop) : Effect (List α) :=
  fun _ wire before content after => wire = .lengthDelimited ∧
    ∃ item, written content item ∧ after = before ++ [item]

/-- The entry that is written is put into the map, one level of nesting below. -/
def inserting : Effect TextMap := fun depth _ before content after =>
  ∃ below, depth = below + 1 ∧ ∃ entry, IsEntry below content entry ∧
    after = before.insert entry.1 entry.2

/-- The fields that are written are merged into the message that is there, or into a blank one,
one level of nesting below. -/
def merging (N : Type) [Message N] : Effect (Option N) := fun depth wire before content after =>
  wire = .lengthDelimited ∧ ∃ below, depth = below + 1 ∧ ∃ merged,
    Within (Message.mergeField below) (before.getD Message.blank) content merged ∧
      after = some merged

/-- The list grows at its end by the message that is written, one level of nesting below. -/
def gathering (N : Type) [Message N] : Effect (List N) := fun depth wire before content after =>
  wire = .lengthDelimited ∧ ∃ below, depth = below + 1 ∧ ∃ message,
    Within (Message.mergeField below) Message.blank content message ∧ after = before ++ [message]

end Effect

namespace Shape

/-- The effects of the shapes. A nested message is one whose fields have effects themselves. -/
inductive HasEffect : {α : Type} → Shape α → Effect α → Prop where
  /-- A text is replaced. -/
  | text : HasEffect Shape.text (.replacing .lengthDelimited IsText)
  /-- Octets are replaced. -/
  | octets : HasEffect Shape.octets (.replacing .lengthDelimited IsStretch)
  /-- An integer of 64 bits is replaced by the two's complement that is written. -/
  | int64 : HasEffect Shape.int64
    (.replacing .varint (IsTaken fun number => (UInt64.ofNat number).toInt64))
  /-- An integer of 32 bits is replaced by the low half of what is written. -/
  | int32 : HasEffect Shape.int32
    (.replacing .varint (IsTaken fun number => (UInt32.ofNat number).toInt32))
  /-- A truth value is replaced; only zero is untrue. -/
  | flag : HasEffect Shape.flag (.replacing .varint (IsTaken fun number => number != 0))
  /-- A list of texts grows. -/
  | texts : HasEffect Shape.texts (.appending IsText)
  /-- A map takes an entry in. -/
  | table : HasEffect Shape.table .inserting
  /-- A nested message is merged. -/
  | nested {N : Type} [Message N] (effects : (field : Field N) → Effect field.Carrier)
    (below : ∀ field ∈ Message.fields (M := N), HasEffect field.shape (effects field)) :
    HasEffect (Shape.nested (N := N)) (.merging N)
  /-- A list of nested messages grows. -/
  | repeated {N : Type} [Message N] (effects : (field : Field N) → Effect field.Carrier)
    (below : ∀ field ∈ Message.fields (M := N), HasEffect field.shape (effects field)) :
    HasEffect (Shape.repeated (N := N)) (.gathering N)

/-- A reader that insists on a wire type accepts what the reader behind it accepts. -/
theorem expecting_accepts {reader : Bytes → Reading α} {grammar : Bytes → α → Prop}
    (accepts : Accepts reader grammar) (expected found : WireType) :
    Accepts (fun bytes => expecting expected found (reader bytes))
      fun content value => found = expected ∧ grammar content value := by
  intro bytes value rest
  by_cases hw : found = expected
  · subst hw
    simp only [expecting_self, accepts bytes value rest, true_and]
  · refine iff_of_false (fun h => ?_) ?_
    · simp only [expecting, expectWire, if_neg hw] at h
      cases h
    · rintro ⟨_, ⟨hf, _⟩, _⟩
      exact hw hf

/-- A text is read exactly when it stands in front. -/
theorem readText_accepts : Accepts readText IsText := by
  intro bytes text rest
  constructor
  · intro h
    rw [readText] at h
    split at h
    · cases h
    next content after hr =>
      split at h
      next found hc =>
        cases h
        obtain ⟨front, hs, he⟩ := (readDelimited_accepts _ _ _).mp hr
        rw [← Bytes.ofText_of_toText hc] at hs
        exact ⟨front, hs, he⟩
      · cases h
  · rintro ⟨front, hs, rfl⟩
    have hr := (readDelimited_accepts _ _ rest).mpr ⟨front, hs, rfl⟩
    simp only [readText, hr, Bytes.toText_ofText]

/-- A field that nobody asked for leaves a state as it is. -/
theorem skip_accepts {σ : Type} (depth number : Nat) (wire : WireType) (state : σ) :
    Accepts (fun bytes => (skipField depth number wire bytes).map fun rest => (state, rest))
      fun content next => WellFormed depth number wire content ∧ next = state := by
  intro bytes next rest
  constructor
  · intro h
    obtain ⟨after, hs, he⟩ := of_map_ok h
    obtain ⟨rfl, rfl⟩ := Prod.mk.inj he
    obtain ⟨content, hw, hb⟩ := (skipField_ok_iff _ _ _ _ _).mp hs
    exact ⟨content, ⟨hw, rfl⟩, hb⟩
  · rintro ⟨content, ⟨hw, rfl⟩, rfl⟩
    have hs := (skipField_ok_iff depth number wire _ rest).mpr ⟨content, hw, rfl⟩
    simp only [hs, Except.map]

/-- The fields of an entry are merged as they are written. -/
theorem mergeEntry_exact (depth : Nat) : Exact (mergeEntry depth) (EntryStep depth) := by
  have ht : ∀ wire (before : String), Accepts (text.read depth wire before) fun content value =>
      wire = .lengthDelimited ∧ IsText content value :=
    fun wire _ => expecting_accepts readText_accepts .lengthDelimited wire
  rintro ⟨key, value⟩ number wire
  by_cases hk : number = 1
  · subst hk
    refine ((ht wire key).map fun found => (found, value)).congr fun content next => ⟨?_, ?_⟩
    · rintro ⟨found, ⟨rfl, written⟩, rfl⟩
      exact .key written
    · intro taken
      cases taken with
      | key written => exact ⟨_, ⟨rfl, written⟩, rfl⟩
      | other noKey => exact absurd rfl noKey
  by_cases hv : number = 2
  · subst hv
    refine ((ht wire value).map fun found => (key, found)).congr fun content next => ⟨?_, ?_⟩
    · rintro ⟨found, ⟨rfl, written⟩, rfl⟩
      exact .value written
    · intro taken
      cases taken with
      | value written => exact ⟨_, ⟨rfl, written⟩, rfl⟩
      | other _ noValue => exact absurd rfl noValue
  · have he : mergeEntry depth (key, value) number wire = fun bytes =>
        (skipField depth number wire bytes).map fun rest => ((key, value), rest) := by
      funext bytes
      rw [mergeEntry, if_neg hk, if_neg hv]
    rw [he]
    refine (skip_accepts depth number wire (key, value)).congr fun content next => ⟨?_, ?_⟩
    · rintro ⟨whole, rfl⟩
      exact .other hk hv whole
    · intro taken
      cases taken with
      | key => exact absurd rfl hk
      | value => exact absurd rfl hv
      | other _ _ whole => exact ⟨whole, rfl⟩

/-- An entry behind its length is read exactly when it stands in front. -/
theorem entry_accepts (depth : Nat) :
    Accepts (mergeDelimited (mergeEntry depth) ("", "")) (IsEntry depth) := by
  refine ((mergeEntry_exact depth).mergeDelimited_accepts ("", "")).congr fun content entry => ?_
  simp only [Within, IsEntry, (mergeEntry_exact depth).mergeAll_ok_iff]

end Shape

namespace Message

variable {M : Type} [Message M]

/-- An occurrence of a listed field is merged as the shape of the field reads it. -/
theorem listed_accepts {number : Nat} {field : Field M}
    (listed : fieldNumbered? M number = some field) {depth : Nat} {wire : WireType} {message : M}
    {grammar : Bytes → field.Carrier → Prop}
    (accepts : Accepts (field.shape.read depth wire (field.get message)) grammar) :
    Accepts (mergeField depth message number wire) fun content next =>
      ∃ value, grammar content value ∧ next = field.set message value := by
  intro bytes next rest
  simp only [mergeField, listed]
  constructor
  · intro h
    split at h
    next value after hr =>
      cases h
      obtain ⟨front, hg, hb⟩ := (accepts _ _ _).mp hr
      exact ⟨front, ⟨value, hg, rfl⟩, hb⟩
    · cases h
  · rintro ⟨front, ⟨value, hg, rfl⟩, rfl⟩
    have hr := (accepts _ _ rest).mpr ⟨front, hg, rfl⟩
    simp only [hr]

/-- A field that is not listed is passed over. -/
theorem unlisted_accepts {number : Nat} (unlisted : fieldNumbered? M number = none) (depth : Nat)
    (wire : WireType) (message : M) :
    Accepts (mergeField depth message number wire) fun content next =>
      WellFormed depth number wire content ∧ next = message := by
  have he : mergeField depth message number wire = fun bytes =>
      (skipField depth number wire bytes).map fun rest => (message, rest) := by
    funext bytes
    rw [mergeField, unlisted]
  rw [he]
  exact Shape.skip_accepts depth number wire message

/-- The fields of a message end where their own octets say, when the shapes do. -/
theorem mergeField_exact {effects : (field : Field M) → Effect field.Carrier}
    (accepts : ∀ field ∈ fields (M := M), ∀ depth wire before,
      Accepts (field.shape.read depth wire before) (effects field depth wire before))
    (depth : Nat) :
    Exact (mergeField depth) fun (message : M) number wire =>
      Steady (mergeField depth message number wire) := by
  intro message number wire
  cases hf : fieldNumbered? M number with
  | none => exact (unlisted_accepts hf depth wire message).steady
  | some field =>
    have member : field ∈ fields (M := M) := List.mem_of_find?_eq_some hf
    exact (listed_accepts hf (accepts field member depth wire _)).steady

end Message

namespace Shape

/-- Reads the fields behind a length, which takes a level of nesting, and makes a value of what they
come to. -/
def readBelow {σ : Type} (merge : Nat → Merge σ) (start : σ) (make : σ → α) :
    Nat → Bytes → Reading α
  | 0, _ => fail .tooDeep
  | below + 1, bytes =>
    (mergeDelimited (merge below) start bytes).map fun (last, rest) => (make last, rest)

/-- What is read in that way is what the fields come to one level below. -/
theorem readBelow_accepts {σ : Type} {merge : Nat → Merge σ} {start : σ}
    {grammar : Nat → Bytes → σ → Prop}
    (accepts : ∀ below, Accepts (mergeDelimited (merge below) start) (grammar below))
    (make : σ → α) (depth : Nat) :
    Accepts (readBelow merge start make depth) fun content after => ∃ below, depth = below + 1 ∧
      ∃ last, grammar below content last ∧ after = make last := by
  cases depth with
  | zero => exact accepts_of_fail (fun _ => rfl) (by rintro _ _ ⟨_, hd, _⟩; cases hd)
  | succ depth =>
    refine ((accepts depth).map make).congr fun content after => ⟨?_, ?_⟩
    · exact fun h => ⟨depth, rfl, h⟩
    · rintro ⟨below, hd, h⟩
      rwa [Nat.succ.inj hd]

/-- Every shape reads exactly the occurrences that its effect tells of. -/
theorem HasEffect.accepts {shape : Shape α} {effect : Effect α} (has : shape.HasEffect effect)
    (depth : Nat) (wire : WireType) (before : α) :
    Accepts (shape.read depth wire before) (effect depth wire before) := by
  induction has generalizing depth wire with
  | text => exact expecting_accepts readText_accepts .lengthDelimited wire
  | octets => exact expecting_accepts readDelimited_accepts .lengthDelimited wire
  | int64 =>
    exact expecting_accepts (readVarint_accepts.map fun number => (UInt64.ofNat number).toInt64)
      .varint wire
  | int32 =>
    exact expecting_accepts (readVarint_accepts.map fun number => (UInt32.ofNat number).toInt32)
      .varint wire
  | flag =>
    exact expecting_accepts (readVarint_accepts.map fun number => number != 0) .varint wire
  | texts =>
    exact expecting_accepts (readText_accepts.map fun text => before ++ [text]) .lengthDelimited
      wire
  | table =>
    have hr : Shape.table.read depth wire before = readBelow mergeEntry ("", "")
        (fun entry => before.insert entry.1 entry.2) depth := by cases depth <;> rfl
    rw [hr]
    exact readBelow_accepts entry_accepts _ depth
  | @nested N message effects below ih =>
    have hr : (Shape.nested (N := N)).read depth wire before = fun bytes =>
        expecting .lengthDelimited wire (readBelow Message.mergeField
          (before.getD Message.blank) some depth bytes) := by cases depth <;> rfl
    have hm := fun below => (Message.mergeField_exact ih below).mergeDelimited_accepts
    rw [hr]
    exact expecting_accepts (readBelow_accepts (fun below => hm below _) some depth) _ wire
  | @repeated N message effects below ih =>
    have hr : (Shape.repeated (N := N)).read depth wire before = fun bytes =>
        expecting .lengthDelimited wire (readBelow Message.mergeField
          Message.blank (fun message => before ++ [message]) depth bytes) := by cases depth <;> rfl
    have hm := fun below => (Message.mergeField_exact ih below).mergeDelimited_accepts
    rw [hr]
    exact expecting_accepts (readBelow_accepts (fun below => hm below _) _ depth) _ wire

end Shape

namespace Message

variable {M : Type} [Message M]

/-- A message type each of whose fields has an effect. -/
def Effective (M : Type) [Message M] : Prop :=
  Everywhere (fun field => ∃ effect, field.shape.HasEffect effect) (fields (M := M))

/-- The fields of an effective message type have effects, chosen once for all. -/
theorem Effective.effects {N : Type} [Message N] (effective : Effective N) :
    ∃ effects : (field : Field N) → Effect field.Carrier,
      ∀ field ∈ fields (M := N), field.shape.HasEffect (effects field) := by
  have hc : ∀ field : Field N, ∃ effect : Effect field.Carrier,
      field ∈ fields (M := N) → field.shape.HasEffect effect := by
    intro field
    by_cases member : field ∈ fields (M := N)
    · obtain ⟨effect, has⟩ := effective.of_mem member
      exact ⟨effect, fun _ => has⟩
    · exact ⟨fun _ _ _ _ _ => False, fun other => absurd other member⟩
  exact Classical.axiomOfChoice hc

/-- What one field does to a message, given the levels of nesting that are left: an occurrence of a
listed field sets it to what its effect comes to, and any other whole field does nothing. -/
inductive Step (depth : Nat) : M → Nat → WireType → Bytes → M → Prop where
  /-- A field that is listed. -/
  | listed {message : M} {field : Field M} {wire : WireType} {content : Bytes}
    {effect : Effect field.Carrier} {after : field.Carrier} (member : field ∈ fields (M := M))
    (has : field.shape.HasEffect effect)
    (taken : effect depth wire (field.get message) content after) :
    Step depth message field.number wire content (field.set message after)
  /-- A field that is not listed. -/
  | unlisted {message : M} {number : Nat} {wire : WireType} {content : Bytes}
    (apart : ∀ field ∈ fields (M := M), field.number ≠ number)
    (whole : WellFormed depth number wire content) : Step depth message number wire content message

variable {levels : Nat}

/-- A field is found by its number exactly when it is listed under it. -/
theorem Lawful.fieldNumbered_eq_some_iff (lawful : Lawful M levels) {number : Nat}
    {field : Field M} :
    fieldNumbered? M number = some field ↔ field ∈ fields (M := M) ∧ field.number = number := by
  constructor
  · intro h
    have hn := List.find?_some h
    rw [decide_eq_true_eq] at hn
    exact ⟨List.mem_of_find?_eq_some h, hn⟩
  · rintro ⟨member, rfl⟩
    exact Field.find_number lawful.ascending member

/-- A number that no field is listed under finds none. -/
theorem fieldNumbered_eq_none_iff {number : Nat} :
    fieldNumbered? M number = none ↔ ∀ field ∈ fields (M := M), field.number ≠ number := by
  simp only [fieldNumbered?, List.find?_eq_none, decide_eq_true_eq, ne_eq]

/-- A lawful message of effective fields is merged step by step. -/
theorem Lawful.step_exact (lawful : Lawful M levels) (effective : Effective M) (depth : Nat) :
    Exact (mergeField depth) (Step (M := M) depth) := by
  intro message number wire
  cases hf : fieldNumbered? M number with
  | none =>
    have apart := fieldNumbered_eq_none_iff.mp hf
    refine (unlisted_accepts hf depth wire message).congr fun content next => ?_
    constructor
    · rintro ⟨whole, rfl⟩
      exact .unlisted apart whole
    · intro h
      cases h with
      | listed member => exact absurd rfl (apart _ member)
      | unlisted _ whole => exact ⟨whole, rfl⟩
  | some field =>
    obtain ⟨member, hn⟩ := lawful.fieldNumbered_eq_some_iff.mp hf
    obtain ⟨effect, has⟩ := effective.of_mem member
    have ha := has.accepts depth wire (field.get message)
    refine (listed_accepts hf ha).congr fun content next => ?_
    constructor
    · rintro ⟨value, taken, rfl⟩
      rw [← hn]
      exact .listed member has taken
    · intro h
      cases h with
      | unlisted apart => exact absurd hn (apart field member)
      | @listed other _ _ again after found hasAgain taken =>
        have hs := lawful.fieldNumbered_eq_some_iff.mpr ⟨found, rfl⟩
        obtain rfl := Option.some.inj (hs.symm.trans hf)
        have hg := hasAgain.accepts depth wire (other.get message)
        exact ⟨after, ha.steady_iff.mp (hg.steady_iff.mpr taken), rfl⟩

/-- How the octets of a message type are merged. -/
structure Merges (M : Type) [Message M] : Prop where
  /-- Octets behind octets are merged onto what those hold, mistakes and all. -/
  append : ∀ (front back : Bytes) (value : M), decode front = .ok value →
    decode (front ++ back) = decodeOnto value back
  /-- A whole field that is not listed does nothing, wherever it stands. -/
  passed : ∀ (front key content back : Bytes) (value : M) (number : Nat) (wire : WireType),
    decode front = .ok value → IsKey key number wire →
      (∀ field ∈ fields (M := M), field.number ≠ number) →
        WellFormed depthLimit number wire content →
        decode (front ++ (key ++ content) ++ back) = (decode (front ++ back) : Except _ M)
  /-- Each listed field has an effect, and an occurrence of it sets it to what that comes to. -/
  taken : ∀ field ∈ fields (M := M), ∃ effect, field.shape.HasEffect effect ∧
    ∀ (front key content back : Bytes) (value : M) (wire : WireType) (after : field.Carrier),
      decode front = .ok value → IsKey key field.number wire →
        effect depthLimit wire (field.get value) content after →
          decode (front ++ (key ++ content) ++ back) = decodeOnto (field.set value after) back
  /-- Nothing else is accepted, at any level of nesting: a message is merged step by step. -/
  run : ∀ (depth : Nat) (before after : M) (bytes : Bytes),
    mergeAll (mergeField depth) before bytes = .ok after ↔ Run (Step depth) before bytes after

/-- One more field behind others is merged onto what those hold. -/
theorem decode_field {step : M → Nat → WireType → Bytes → M → Prop}
    (exact : Exact (mergeField depthLimit) step) {front key content : Bytes} {value next : M}
    {number : Nat} {wire : WireType} (hd : decode front = .ok value) (isKey : IsKey key number wire)
    (taken : step value number wire content next) (back : Bytes) :
    decode (front ++ (key ++ content) ++ back) = decodeOnto next back := by
  have hs : Run step value (key ++ content ++ []) next := .field isKey taken (.done next)
  rw [List.append_nil] at hs
  have hf : mergeAll (mergeField depthLimit) value (key ++ content) = .ok next :=
    exact.mergeAll_ok_iff.mpr hs
  have hg : decode (front ++ (key ++ content)) = .ok next :=
    (exact.mergeAll_append hd (key ++ content)).trans hf
  exact exact.mergeAll_append hg back

/-- A lawful message of effective fields is merged as the effects of its fields tell. -/
theorem Lawful.merges (lawful : Lawful M levels) (effective : Effective M) : Merges M where
  append front back value hd := (lawful.step_exact effective depthLimit).mergeAll_append hd back
  passed front key content back value number wire hd isKey apart whole := by
    have exact := lawful.step_exact effective depthLimit
    have hs := decode_field exact hd isKey (.unlisted apart whole) back
    rw [hs]
    exact (exact.mergeAll_append hd back).symm
  taken field member := by
    obtain ⟨effect, has⟩ := effective.of_mem member
    refine ⟨effect, has, fun front key content back value wire after hd isKey taken => ?_⟩
    exact decode_field (lawful.step_exact effective depthLimit) hd isKey
      (.listed member has taken) back
  run depth before after bytes := (lawful.step_exact effective depth).mergeAll_ok_iff

end Message

namespace Shape

variable {N : Type} [Message N]

/-- A nested message of an effective type is merged. -/
theorem nested_hasEffect (effective : Message.Effective N) :
    ∃ effect, (nested (N := N)).HasEffect effect := by
  obtain ⟨effects, below⟩ := effective.effects
  exact ⟨_, .nested effects below⟩

/-- A list of nested messages of an effective type grows. -/
theorem repeated_hasEffect (effective : Message.Effective N) :
    ∃ effect, (repeated (N := N)).HasEffect effect := by
  obtain ⟨effects, below⟩ := effective.effects
  exact ⟨_, .repeated effects below⟩

end Shape

end MediaGateway.Protobuf
