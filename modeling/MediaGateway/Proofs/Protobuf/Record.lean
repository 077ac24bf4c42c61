import MediaGateway.Proofs.Protobuf.Generic
import MediaGateway.Proofs.Protobuf.Merging

/-!
# Records read back

Octets are read as the occurrences that they spell. What is written for a value of a field
is a list of payloads that takes the blank value to it, and the payloads under one number
leave the other fields alone. So a record that is written from the description of its type
reads back from the same description, level of nesting by level.
-/

namespace MediaGateway.Protobuf.Descriptor

/-- Octets that are occurrences one after another, each behind its key. -/
inductive Spelled : List Occurrence → Bytes → Prop where
  /-- No octets. -/
  | done : Spelled [] []
  /-- An occurrence, and then those behind it. -/
  | once {number : Nat} {payload : Payload} {key content tail : Bytes} {later : List Occurrence}
    (isKey : IsKey key number payload.wire) (isPayload : payload.IsWritten content)
    (behind : Spelled later tail) :
    Spelled ((number, payload) :: later) (key ++ content ++ tail)

/-- A payload is read exactly when it stands in front with its wire type. -/
theorem readPayload_ok_iff {number : Nat} {wire : WireType} {bytes rest : Bytes}
    {payload : Payload} :
    readPayload number wire bytes = .ok (payload, rest) ↔
      wire = payload.wire ∧ ∃ content, payload.IsWritten content ∧ bytes = content ++ rest := by
  constructor
  · intro h
    cases wire with
    | varint =>
      rw [readPayload] at h
      split at h
      next value after hr =>
        cases h
        exact ⟨rfl, (readVarint_accepts _ _ _).mp hr⟩
      · cases h
    | lengthDelimited =>
      rw [readPayload] at h
      split at h
      next content after hr =>
        cases h
        exact ⟨rfl, (readDelimited_accepts _ _ _).mp hr⟩
      · cases h
    | _ => cases h
  · rintro ⟨rfl, hp⟩
    cases payload with
    | number value => simp only [readPayload, Payload.wire, (readVarint_accepts _ _ _).mpr hp]
    | stretch content => simp only [readPayload, Payload.wire, (readDelimited_accepts _ _ _).mpr hp]

/-- Octets are read as the occurrences that they spell. -/
theorem occurrences_ok_iff {fuel : Nat} {bytes : Bytes} {found : List Occurrence}
    (enough : bytes.length < fuel) :
    occurrences fuel bytes = .ok found ↔ Spelled found bytes := by
  induction fuel generalizing bytes found with
  | zero => omega
  | succ fuel ih =>
    constructor
    · intro h
      rw [occurrences] at h
      split at h
      next he =>
        cases h
        rw [he]
        exact .done
      · split at h
        · cases h
        next number wire rest hk =>
          obtain ⟨key, isKey, rfl⟩ := readKey_ok_iff.mp hk
          have hl := isKey.holds.length_pos
          split at h
          · cases h
          next payload after hp =>
            obtain ⟨rfl, content, isPayload, rfl⟩ := readPayload_ok_iff.mp hp
            obtain ⟨later, ho, rfl⟩ := Shape.of_map_ok h
            simp only [List.length_append] at enough
            rw [← List.append_assoc]
            exact .once isKey isPayload ((ih (by omega)).mp ho)
    · intro h
      cases h with
      | done => rfl
      | @once number payload key content tail later isKey isPayload behind =>
        have hl := isKey.holds.length_pos
        have hk := readKey_ok_iff.mpr ⟨key, isKey, List.append_assoc key content tail⟩
        have hp : readPayload number payload.wire (content ++ tail) = .ok (payload, tail) :=
          readPayload_ok_iff.mpr ⟨rfl, content, isPayload, rfl⟩
        simp only [List.length_append] at enough
        have hi : occurrences fuel tail = .ok later := (ih (by omega)).mpr behind
        have he : key ++ content ++ tail ≠ [] := by
          intro empty
          have hn := congrArg List.length empty
          simp only [List.length_append, List.length_nil] at hn
          omega
        rw [occurrences, if_neg he, hk]
        simp only [hp, hi, Except.map]

/-- A payload that fits is spelled as it is written. -/
theorem Payload.isWritten_write {payload : Payload} (fits : payload.Fits) :
    payload.IsWritten payload.write := by
  cases payload with
  | number value => exact readVarint_accepts.steady_iff.mp (readVarint_writeVarint fits)
  | stretch content => exact readDelimited_accepts.steady_iff.mp (readDelimited_writeDelimited fits)

/-- The key of a field is spelled as it is written. -/
theorem isKey_writeKey {number : Nat} (positive : 0 < number) (bounded : number < numberBound)
    (wire : WireType) : IsKey (writeKey number wire) number wire := by
  obtain ⟨key, isKey, he⟩ := readKey_ok_iff.mp (readKey_writeKey positive bounded wire [])
  rw [List.append_nil, List.append_nil] at he
  rwa [he]

/-- An occurrence that the wire has room for. -/
structure Occurrence.Fits (occurrence : Occurrence) : Prop where
  /-- Zero is no number of a field. -/
  positive : 0 < occurrence.1
  /-- A key has room for the number. -/
  bounded : occurrence.1 < numberBound
  /-- The payload fits. -/
  payload : occurrence.2.Fits

/-- Occurrences that fit are spelled as they are written. -/
theorem spelled_write {found : List Occurrence} (fits : ∀ occurrence ∈ found, occurrence.Fits) :
    Spelled found (found.flatMap writeOccurrence) := by
  induction found with
  | nil => exact .done
  | cons occurrence later ih =>
    obtain ⟨hf, hl⟩ := List.forall_mem_cons.mp fits
    rw [List.flatMap_cons]
    exact .once (isKey_writeKey hf.positive hf.bounded _) (Payload.isWritten_write hf.payload)
      (ih hl)

/-- The low bits of the two's complement of an integer that they have room for are the integer. -/
theorem bmod_complement (bound : Nat) (divides : 2 * bound ∣ octetBound) {value : Int}
    (least : -bound ≤ value) (most : value < bound) :
    Int.bmod (value % octetBound).toNat (2 * bound) = value := by
  have hb : (octetBound : Int) ≠ 0 := by decide
  have hd : ((2 * bound : Nat) : Int) ∣ octetBound := Int.natCast_dvd_natCast.mpr divides
  rw [Int.toNat_of_nonneg (Int.emod_nonneg _ hb), ← Int.emod_bmod, Int.emod_emod_of_dvd _ hd,
    Int.emod_bmod]
  exact Int.bmod_eq_of_le (by omega) (by omega)

/-- What is written for an integer: nothing for zero, and else its two's complement. -/
theorem writeInteger_eq_some_iff {bound : Nat} {value : Int} {payloads : List Payload} :
    writeInteger bound value = some payloads ↔ (-bound ≤ value ∧ value < bound) ∧
      payloads = if value = 0 then [] else [.number (value % octetBound).toNat] := by
  rw [writeInteger]
  split
  next h => simp only [h, Option.some.injEq, true_and, eq_comm]
  next h => simp only [h, reduceCtorEq, false_and]

section Fold

variable {α β σ ε : Type}

/-- A fold whose first step succeeds goes on from there. -/
theorem foldlM_cons_of_ok {step : σ → α → Except ε σ} {state next : σ} {item : α}
    (h : step state item = .ok next) (items : List α) :
    (item :: items).foldlM step state = items.foldlM step next := by
  rw [List.foldlM_cons, h]
  rfl

/-- A fold over one item is its step. -/
theorem foldlM_single_of_ok {step : σ → α → Except ε σ} {state next : σ} {item : α}
    (h : step state item = .ok next) : [item].foldlM step state = .ok next :=
  foldlM_cons_of_ok h []

/-- Every step of a fold that succeeds does. -/
theorem foldlM_cons_ok {step : σ → α → Except ε σ} {state last : σ} {item : α} {items : List α}
    (h : (item :: items).foldlM step state = .ok last) :
    ∃ next, step state item = .ok next ∧ items.foldlM step next = .ok last := by
  rw [List.foldlM_cons] at h
  cases hs : step state item with
  | error error =>
    rw [hs] at h
    cases h
  | ok next =>
    rw [hs] at h
    exact ⟨next, rfl, h⟩

/-- What is made of each of some items is made of the first and of the others. -/
theorem mapM_cons_eq_some_iff {make : α → Option β} {item : α} {items : List α} {made : List β} :
    (item :: items).mapM make = some made ↔
      ∃ first later, make item = some first ∧ items.mapM make = some later ∧
        made = first :: later := by
  simp only [List.mapM_cons, Option.bind_eq_bind, Option.bind_eq_some_iff, Option.pure_def,
    Option.some.injEq]
  constructor
  · rintro ⟨first, hf, later, hl, rfl⟩
    exact ⟨first, later, hf, hl, rfl⟩
  · rintro ⟨first, later, hf, hl, rfl⟩
    exact ⟨first, hf, later, hl, rfl⟩

end Fold

section RoundTrip

variable {write : EntryOrder → List FieldInfo → Record → Option Bytes}
  {read : List FieldInfo → Option Record → Bytes → Except Misread Record}

/-- Records read back from whatever is written for them. -/
def RoundTrips (write : EntryOrder → List FieldInfo → Record → Option Bytes)
    (read : List FieldInfo → Option Record → Bytes → Except Misread Record) : Prop :=
  ∀ (order : EntryOrder), order.Complete → ∀ fields record bytes,
    write order fields record = some bytes → bytes.length < octetBound →
      read fields none bytes = .ok record

/-- The octets of a text are the text. -/
theorem textOf_ofText (number : Nat) (text : String) :
    textOf number (Bytes.ofText text) = .ok text := by
  simp only [textOf, Bytes.toText_ofText]

/-- The record of a map entry is the entry. -/
theorem entryOf_entryRecord (number : Nat) (entry : String × String) :
    entryOf number (entryRecord entry) = .ok entry := rfl

/-- Texts are read onto those before them. -/
theorem foldlM_texts (number : Nat) (contents before : List String) :
    (contents.map fun content => Payload.stretch (Bytes.ofText content)).foldlM
      (Kind.texts.merge read number) (.texts before) = .ok (.texts (before ++ contents)) := by
  induction contents generalizing before with
  | nil =>
    rw [List.append_nil]
    rfl
  | cons content contents ih =>
    have hm : Kind.texts.merge read number (.texts before) (.stretch (Bytes.ofText content)) =
        .ok (.texts (before ++ [content])) := by
      simp only [Kind.merge, textOf_ofText, Except.map]
    rw [List.map_cons, foldlM_cons_of_ok hm, ih, List.append_assoc, List.singleton_append]

/-- Messages are read onto those before them. -/
theorem foldlM_messages (trips : RoundTrips write read) {order : EntryOrder}
    (complete : order.Complete) {fields : List FieldInfo} {records before : List Record}
    {place : Nat} {contents : List Bytes}
    (written : ((records.zipIdx place).mapM fun numbered =>
      write (order.inside numbered.2) fields numbered.1) = some contents)
    (fits : ∀ content ∈ contents, content.length < octetBound) (number : Nat) :
    (contents.map Payload.stretch).foldlM ((Kind.messages fields).merge read number)
      (.records before) = .ok (.records (before ++ records)) := by
  induction records generalizing place before contents with
  | nil =>
    cases written
    rw [List.append_nil]
    rfl
  | cons record records ih =>
    rw [List.zipIdx_cons] at written
    obtain ⟨content, later, hc, hl, rfl⟩ := mapM_cons_eq_some_iff.mp written
    obtain ⟨hf, hr⟩ := List.forall_mem_cons.mp fits
    have hm : (Kind.messages fields).merge read number (.records before) (.stretch content) =
        .ok (.records (before ++ [record])) := by
      simp only [Kind.merge, trips _ (complete.inside place) _ _ _ hc hf, Except.map]
    rw [List.map_cons, foldlM_cons_of_ok hm, ih hl hr, List.append_assoc, List.singleton_append]

/-- Entries are put into the map before them. -/
theorem foldlM_table (trips : RoundTrips write read) {order : EntryOrder}
    (complete : order.Complete) {fields : List FieldInfo} {entries : List (String × String)}
    (before : TextMap) {contents : List Bytes}
    (written : (entries.mapM fun entry => write order fields (entryRecord entry)) = some contents)
    (fits : ∀ content ∈ contents, content.length < octetBound) (number : Nat) :
    (contents.map Payload.stretch).foldlM ((Kind.table fields).merge read number)
      (.table before.entries) = .ok (.table
        (entries.foldl (fun map entry => map.insert entry.1 entry.2) before).entries) := by
  induction entries generalizing before contents with
  | nil =>
    cases written
    rfl
  | cons entry entries ih =>
    obtain ⟨content, later, hc, hl, rfl⟩ := mapM_cons_eq_some_iff.mp written
    obtain ⟨hf, hr⟩ := List.forall_mem_cons.mp fits
    have hm : (Kind.table fields).merge read number (.table before.entries) (.stretch content) =
        .ok (.table (before.insert entry.1 entry.2).entries) := by
      simp only [Kind.merge, trips _ complete _ _ _ hc hf, entryOf_entryRecord, Except.map]
      rfl
    rw [List.map_cons, foldlM_cons_of_ok hm, ih _ hl hr, List.foldl_cons]

/-- A number that is written for an integer has 64 bits. -/
theorem number_lt_of_writeInteger {bound : Nat} {value : Int} {payloads : List Payload}
    (written : writeInteger bound value = some payloads) {content : Nat}
    (member : .number content ∈ payloads) : content < octetBound := by
  obtain ⟨-, rfl⟩ := writeInteger_eq_some_iff.mp written
  split at member
  · exact absurd member List.not_mem_nil
  · have hb : octetBound = 18446744073709551616 := rfl
    obtain rfl := Payload.number.inj (List.mem_singleton.mp member)
    rw [hb]
    omega

/-- A number that is written has 64 bits. -/
theorem Kind.number_lt_of_write {order : EntryOrder} {kind : Kind} {value : Value}
    {payloads : List Payload} (written : kind.write write order value = some payloads)
    {content : Nat} (member : .number content ∈ payloads) : content < octetBound := by
  have hs : ∀ contents : List Bytes, .number content ∉ contents.map Payload.stretch := by
    intro contents stretched
    obtain ⟨_, _, hc⟩ := List.mem_map.mp stretched
    cases hc
  revert written
  fun_cases Kind.write write order kind value with
  | case1 text =>
    rintro ⟨⟩
    split at member <;> simp at member
  | case2 inner =>
    rintro ⟨⟩
    split at member <;> simp at member
  | case3 integer => exact fun written => number_lt_of_writeInteger written member
  | case4 integer => exact fun written => number_lt_of_writeInteger written member
  | case5 mark =>
    rintro ⟨⟩
    split at member
    · obtain rfl := Payload.number.inj (List.mem_singleton.mp member)
      decide
    · exact absurd member List.not_mem_nil
  | case6 texts =>
    rintro ⟨⟩
    simp at member
  | case7 fields =>
    rintro ⟨⟩
    exact absurd member List.not_mem_nil
  | case8 fields record =>
    intro written
    obtain ⟨inner, _, rfl⟩ := Option.map_eq_some_iff.mp written
    exact absurd member (hs [inner])
  | case9 fields records =>
    intro written
    obtain ⟨contents, _, rfl⟩ := Option.map_eq_some_iff.mp written
    exact absurd member (hs contents)
  | case10 fields entries =>
    intro written
    obtain ⟨contents, _, rfl⟩ := Option.map_eq_some_iff.mp written
    exact absurd member (hs contents)
  | case11 => rintro ⟨⟩
  | case12 => rintro ⟨⟩

/-- The payloads of a value take the blank value to it. -/
theorem Kind.foldlM_merge (trips : RoundTrips write read) {order : EntryOrder}
    (complete : order.Complete) {kind : Kind} {value : Value} {payloads : List Payload}
    (written : kind.write write order value = some payloads)
    (fits : ∀ content, .stretch content ∈ payloads → content.length < octetBound) (number : Nat) :
    payloads.foldlM (kind.merge read number) kind.blank = .ok value := by
  have hf : ∀ contents : List Bytes, payloads = contents.map .stretch →
      ∀ content ∈ contents, content.length < octetBound := by
    rintro contents rfl content member
    exact fits content (List.mem_map_of_mem member)
  revert written
  fun_cases Kind.write write order kind value with
  | case1 text =>
    rintro ⟨⟩
    split
    next he => rw [he]; rfl
    next =>
      refine foldlM_single_of_ok ?_
      simp only [Kind.merge, textOf_ofText, Except.map]
  | case2 content =>
    rintro ⟨⟩
    split
    next he => rw [he]; rfl
    next => rfl
  | case3 integer =>
    intro written
    obtain ⟨⟨least, most⟩, rfl⟩ := writeInteger_eq_some_iff.mp written
    split
    next he => rw [he]; rfl
    next =>
      refine foldlM_single_of_ok ?_
      rw [Kind.merge]
      exact congrArg (fun integer => Except.ok (Value.integer integer))
        (bmod_complement (Nat.pow 2 63) ⟨1, rfl⟩ least most)
  | case4 integer =>
    intro written
    obtain ⟨⟨least, most⟩, rfl⟩ := writeInteger_eq_some_iff.mp written
    split
    next he => rw [he]; rfl
    next =>
      refine foldlM_single_of_ok ?_
      rw [Kind.merge]
      exact congrArg (fun integer => Except.ok (Value.integer integer))
        (bmod_complement (Nat.pow 2 31) ⟨Nat.pow 2 32, rfl⟩ least most)
  | case5 mark =>
    rintro ⟨⟩
    cases mark <;> rfl
  | case6 texts =>
    rintro ⟨⟩
    exact foldlM_texts number texts []
  | case7 fields =>
    rintro ⟨⟩
    rfl
  | case8 fields record =>
    intro written
    obtain ⟨content, hc, rfl⟩ := Option.map_eq_some_iff.mp written
    have hr := trips order complete fields record content hc
      (fits content (List.mem_singleton_self _))
    refine foldlM_single_of_ok ?_
    simp only [Kind.merge, Kind.blank, hr, Except.map]
  | case9 fields records =>
    intro written
    obtain ⟨contents, hc, rfl⟩ := Option.map_eq_some_iff.mp written
    exact foldlM_messages trips complete hc (hf contents rfl) number
  | case10 fields entries ascending =>
    intro written
    obtain ⟨contents, hc, rfl⟩ := Option.map_eq_some_iff.mp written
    have ht := foldlM_table trips complete TextMap.empty hc (hf contents rfl) number
    rwa [TextMap.foldl_insert_perm (complete [] ⟨entries, ascending⟩)] at ht
  | case11 => rintro ⟨⟩
  | case12 => rintro ⟨⟩

/-- What is written for a record, field by field. -/
theorem occurrencesOf_cons_eq_some_iff {order : EntryOrder} {part : Part} {parts : List Part}
    {name : String} {value : Value} {record : Record} {found : List Occurrence} :
    occurrencesOf write order (part :: parts) ((name, value) :: record) = some found ↔
      name = part.name ∧ ∃ payloads later,
        part.kind.write write (order.inside part.number) value = some payloads ∧
        occurrencesOf write order parts record = some later ∧
        found = payloads.map (Prod.mk part.number) ++ later := by
  rw [occurrencesOf]
  by_cases hn : name = part.name
  · rw [if_pos hn]
    cases hw : part.kind.write write (order.inside part.number) value with
    | none => simp
    | some payloads =>
      cases ho : occurrencesOf write order parts record with
      | none => simp
      | some later => simp [hn, eq_comm]
  · rw [if_neg hn]
    simp [hn]

/-- Each occurrence that is written belongs to a field, and its payload to a value of it. -/
theorem exists_part_of_mem {order : EntryOrder} {parts : List Part} {record : Record}
    {found : List Occurrence} (written : occurrencesOf write order parts record = some found)
    {occurrence : Occurrence} (member : occurrence ∈ found) :
    ∃ part ∈ parts, occurrence.1 = part.number ∧ ∃ value payloads,
      part.kind.write write (order.inside part.number) value = some payloads ∧
        occurrence.2 ∈ payloads := by
  induction parts generalizing record found with
  | nil =>
    cases record with
    | nil =>
      cases written
      exact absurd member List.not_mem_nil
    | cons => cases written
  | cons part parts ih =>
    cases record with
    | nil => cases written
    | cons entry record =>
      obtain ⟨-, payloads, later, hw, hl, rfl⟩ := occurrencesOf_cons_eq_some_iff.mp written
      rcases List.mem_append.mp member with here | behind
      · obtain ⟨payload, hp, rfl⟩ := List.mem_map.mp here
        exact ⟨part, List.mem_cons_self, rfl, _, payloads, hw, hp⟩
      · obtain ⟨other, ho, rest⟩ := ih hl behind
        exact ⟨other, List.mem_cons_of_mem _ ho, rest⟩

/-- Occurrences of the first field change its value only. -/
theorem foldlM_mergeAt_first {part : Part} {name : String} {before after : Value}
    {payloads : List Payload}
    (merged : payloads.foldlM (part.kind.merge read part.number) before = .ok after)
    (parts : List Part) (record : Record) :
    (payloads.map (Prod.mk part.number)).foldlM (mergeAt read (part :: parts))
      ((name, before) :: record) = .ok ((name, after) :: record) := by
  induction payloads generalizing before with
  | nil =>
    cases merged
    rfl
  | cons payload payloads ih =>
    obtain ⟨next, hm, hl⟩ := foldlM_cons_ok merged
    have hs : mergeAt read (part :: parts) ((name, before) :: record) (part.number, payload) =
        .ok ((name, next) :: record) := by
      rw [mergeAt, if_pos rfl, hm]
      rfl
    rw [List.map_cons, foldlM_cons_of_ok hs, ih hl]

/-- Occurrences under other numbers leave the first field alone. -/
theorem foldlM_mergeAt_later {part : Part} {found : List Occurrence}
    (others : ∀ occurrence ∈ found, part.number ≠ occurrence.1) {parts : List Part}
    {record later : Record} (merged : found.foldlM (mergeAt read parts) record = .ok later)
    (entry : String × Value) :
    found.foldlM (mergeAt read (part :: parts)) (entry :: record) = .ok (entry :: later) := by
  induction found generalizing record with
  | nil =>
    cases merged
    rfl
  | cons occurrence found ih =>
    obtain ⟨next, hm, hl⟩ := foldlM_cons_ok merged
    obtain ⟨ho, hr⟩ := List.forall_mem_cons.mp others
    have hs : mergeAt read (part :: parts) (entry :: record) occurrence =
        .ok (entry :: next) := by
      rw [mergeAt, if_neg ho, hm]
      rfl
    rw [foldlM_cons_of_ok hs, ih hr hl]

/-- The occurrences of a record take the blank record to it. -/
theorem foldlM_mergeAt (trips : RoundTrips write read) {order : EntryOrder}
    (complete : order.Complete) {parts : List Part} (apart : (parts.map Part.number).Nodup)
    {record : Record} {found : List Occurrence}
    (written : occurrencesOf write order parts record = some found)
    (fits : ∀ number content, (number, .stretch content) ∈ found → content.length < octetBound) :
    found.foldlM (mergeAt read parts) (blankOf parts) = .ok record := by
  induction parts generalizing record found with
  | nil =>
    cases record with
    | nil =>
      cases written
      rfl
    | cons => cases written
  | cons part parts ih =>
    cases record with
    | nil => cases written
    | cons entry record =>
      obtain ⟨name, value⟩ := entry
      obtain ⟨rfl, payloads, later, hw, hl, rfl⟩ := occurrencesOf_cons_eq_some_iff.mp written
      obtain ⟨hn, ha⟩ := List.nodup_cons.mp apart
      have hv : payloads.foldlM (part.kind.merge read part.number) part.kind.blank = .ok value :=
        part.kind.foldlM_merge trips (complete.inside part.number) hw
          (fun content member => fits part.number content
            (List.mem_append_left _ (List.mem_map_of_mem member))) part.number
      have hr : later.foldlM (mergeAt read parts) (blankOf parts) = .ok record :=
        ih ha hl fun number content member =>
          fits number content (List.mem_append_right _ member)
      have ho : ∀ occurrence ∈ later, part.number ≠ occurrence.1 := by
        intro occurrence member same
        obtain ⟨other, hm, he, -⟩ := exists_part_of_mem hl member
        exact hn (same.trans he ▸ List.mem_map_of_mem hm)
      have hb : blankOf (part :: parts) = (part.name, part.kind.blank) :: blankOf parts := rfl
      -- The occurrences of the first field do not reach the others, and theirs pass it by.
      rw [List.foldlM_append, hb, foldlM_mergeAt_first hv]
      exact foldlM_mergeAt_later ho hr _

end RoundTrip

/-- Fields that are understood have numbers of their own, which the wire has. -/
theorem numbers_of_parts {files : List FileInfo} {fields : List FieldInfo} {parts : List Part}
    (understood : parts? files fields = some parts) :
    (parts.map Part.number).Nodup ∧
      ∀ part ∈ parts, 0 < part.number ∧ part.number < numberBound := by
  rw [parts?] at understood
  split at understood
  next numbered =>
    have hn : parts.map Part.number = fields.map FieldInfo.number := by
      clear numbered
      induction fields generalizing parts with
      | nil =>
        cases understood
        rfl
      | cons info fields ih =>
        obtain ⟨part, later, hp, hl, rfl⟩ := mapM_cons_eq_some_iff.mp understood
        obtain ⟨kind, -, rfl⟩ := Option.map_eq_some_iff.mp hp
        rw [List.map_cons, List.map_cons, ih hl]
    refine ⟨hn ▸ numbered.1, fun part member => ?_⟩
    have hm : part.number ∈ fields.map FieldInfo.number := hn ▸ List.mem_map_of_mem member
    obtain ⟨info, hi, he⟩ := List.mem_map.mp hm
    exact he ▸ numbered.2 info hi
  · cases understood

/-- A stretch among occurrences is shorter than they are together. -/
theorem length_lt_of_mem {found : List Occurrence} {number : Nat} {content : Bytes}
    (member : (number, .stretch content) ∈ found) :
    content.length < (found.flatMap writeOccurrence).length := by
  obtain ⟨former, latter, rfl⟩ := List.append_of_mem member
  have hc : content.length < (writeOccurrence (number, .stretch content)).length :=
    Shape.length_lt_writeContent number content
  simp only [List.flatMap_append, List.flatMap_cons, List.length_append]
  omega

/-- Whatever is written for a record within some levels of nesting reads back within as many. -/
theorem records_roundTrip (files : List FileInfo) (depth : Nat) :
    RoundTrips (writeRecord files depth) (readRecord files depth) := by
  induction depth with
  | zero =>
    intro order _ fields record bytes written
    cases written
  | succ depth ih =>
    intro order complete fields record bytes written short
    rw [writeRecord] at written
    split at written
    · cases written
    next parts hp =>
      obtain ⟨found, ho, rfl⟩ := Option.map_eq_some_iff.mp written
      obtain ⟨apart, numbered⟩ := numbers_of_parts hp
      have hs : ∀ number content, (number, .stretch content) ∈ found →
          content.length < octetBound :=
        fun _ _ member => Nat.lt_trans (length_lt_of_mem member) short
      have hf : ∀ occurrence ∈ found, occurrence.Fits := by
        rintro ⟨number, payload⟩ member
        obtain ⟨part, hm, rfl, value, payloads, hw, hv⟩ := exists_part_of_mem ho member
        obtain ⟨positive, bounded⟩ := numbered part hm
        refine ⟨positive, bounded, ?_⟩
        cases payload with
        | number content => exact Kind.number_lt_of_write hw hv
        | stretch content => exact hs _ _ member
      have hr : occurrences ((found.flatMap writeOccurrence).length + 1)
          (found.flatMap writeOccurrence) = .ok found :=
        (occurrences_ok_iff (Nat.lt_succ_self _)).mpr (spelled_write hf)
      simp only [readRecord, hp, hr]
      exact foldlM_mergeAt ih complete apart ho hs

/-- A record that is written as a message of a declared type reads back as one. -/
theorem decodeAs_of_encodeAs {files : List FileInfo} {order : EntryOrder}
    (complete : order.Complete) {typeName : String} {record : Record} {bytes : Bytes}
    (written : encodeAs files order typeName record = some bytes)
    (short : bytes.length < octetBound) : decodeAs files typeName bytes = .ok record := by
  rw [encodeAs] at written
  split at written
  next fields hd =>
    simp only [decodeAs, hd]
    exact records_roundTrip files _ order complete fields record bytes written short
  · cases written

end MediaGateway.Protobuf.Descriptor
