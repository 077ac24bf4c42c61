import MediaGateway.Proofs.Json.Digits

/-!
# Compact values read back

The compact form of a value is well-formed. A value whose numbers are whole and whose
records have their names in strict order is read back from it, as long as not too
many lists and records stand inside one another.
-/

namespace MediaGateway.Json

/-- The octets of a text between quotes. -/
theorem octetsOf_textChars (text : String) :
    octetsOf (textChars text) = 0x22 :: (insideOctets text.toList ++ [0x22]) := by
  have hq : String.utf8EncodeChar '"' = [0x22] := rfl
  rw [textChars, octetsOf_append, octetsOf, List.flatMap_cons, hq]
  rfl

/-- A value with whole numbers, with at most `room` lists and records inside one another, and with
the names of every record in strict order. -/
def Value.Whole : (room : Nat) → Value → Prop
  | _, .null => True
  | _, .flag _ => True
  | _, .text _ => True
  | _, .number content => content.IsWhole
  | 0, .list _ => False
  | 0, .record _ => False
  | room + 1, .list items => ∀ item ∈ items, Whole room item
  | room + 1, .record entries =>
    (entries.Pairwise fun former latter => former.1 < latter.1) ∧
      ∀ entry ∈ entries, Whole room entry.2

/-- A list of texts is whole. -/
theorem whole_texts (room : Nat) (items : List String) : (texts items).Whole (room + 1) := by
  intro item member
  obtain ⟨text, _, rfl⟩ := List.mem_map.mp member
  simp only [Value.Whole]

/-- A name beyond all others is put behind them. -/
theorem put_eq_append {front : List (String × Value)} {entry : String × Value}
    (beyond : ∀ former ∈ front, former.1 < entry.1) :
    put entry.1 entry.2 front = front ++ [entry] := by
  induction front with
  | nil => rfl
  | cons first front ih =>
    have hf := beyond first (List.mem_cons_self ..)
    have hn : ¬entry.1 < first.1 := fun hc => String.lt_irrefl _ (String.lt_trans hf hc)
    rw [put, if_neg hn, if_pos hf, ih fun former hm => beyond former (List.mem_cons_of_mem _ hm),
      List.cons_append]

/-- Names in strict order are in their order already. -/
theorem ordered_of_ascending {entries : List (String × Value)}
    (h : entries.Pairwise fun former latter => former.1 < latter.1) :
    ordered entries = entries := by
  have hs : ∀ (front rest : List (String × Value)),
      ((front ++ rest).Pairwise fun former latter => former.1 < latter.1) →
        rest.foldl (fun sorted entry => put entry.1 entry.2 sorted) front = front ++ rest := by
    intro front rest
    induction rest generalizing front with
    | nil => exact fun _ => (List.append_nil front).symm
    | cons entry rest ih =>
      intro hw
      have hl : ∀ former ∈ front, former.1 < entry.1 := fun former hm =>
        (List.pairwise_append.mp hw).2.2 former hm entry (List.mem_cons_self ..)
      rw [List.append_cons] at hw
      rw [List.foldl_cons, put_eq_append hl, ih (front ++ [entry]) hw, List.append_assoc,
        List.singleton_append]
  exact hs [] entries h

/-- The entry that is read for a named value. -/
def readEntry (room : Nat) (entry : Bytes × Written) : Option (String × Value) :=
  (unquoted? entry.1).bind fun name =>
    (Written.value? room entry.2).map fun value => (name, value)

/-- Octets that write a value, which is read as the value that they are made from, if it is whole. -/
def IsWritten (value : Value) : Prop :=
  ∃ written, Spells (.value written) (octetsOf value.chars) ∧
    ∀ room, value.Whole room → written.value? room = some value

/-- A number is written. -/
theorem isWritten_number (content : Number) : IsWritten (.number content) := by
  by_cases hw : content.IsWhole
  · obtain ⟨numeral, hs, hn⟩ := exists_read_number hw
    exact ⟨.numeral numeral, .numeral hs, fun room _ => by rw [Written.value?, hn]; rfl⟩
  · obtain ⟨numeral, hs⟩ := exists_spelled_number content
    exact ⟨.numeral numeral, .numeral hs, fun room h => by cases room <;> exact absurd h hw⟩

/-- A text is written. -/
theorem isWritten_text (content : String) : IsWritten (.text content) := by
  have hs := stands_insideOctets content.toList
  refine ⟨.quoted (insideOctets content.toList), ?_, fun room _ => ?_⟩
  · rw [Value.chars, octetsOf_textChars]
    exact .quoted hs.isInside
  · rw [Written.value?, unquoted_of_stands hs]
    rfl

/-- The values of a list are written up to the bracket that closes it. -/
theorem exists_items {items : List Value} (hn : items ≠ []) (h : ∀ item ∈ items, IsWritten item) :
    ∃ written inner, Spells (.items written) inner ∧
      octetsOf (itemChars items) = inner ++ [0x5D] ∧
      ∀ room, (∀ item ∈ items, item.Whole room) →
        written.mapM (Written.value? room) = some items := by
  induction items with
  | nil => exact absurd rfl hn
  | cons item items ih =>
    obtain ⟨written, spelled, hv⟩ := h item List.mem_cons_self
    have blank : AllBlank [] := fun octet member => absurd member List.not_mem_nil
    cases items with
    | nil =>
      refine ⟨[written], _, .lastItem blank spelled blank, ?_, fun room hw => ?_⟩
      · rw [itemChars, octetsOf_append, List.nil_append, List.append_nil]
        rfl
      · rw [List.mapM_cons, hv room (hw item List.mem_cons_self)]
        rfl
    | cons next items =>
      obtain ⟨others, inner, spelledMore, hc, hm⟩ := ih (List.cons_ne_nil next items)
        fun other member => h other (List.mem_cons_of_mem _ member)
      refine ⟨written :: others, _, .nextItem blank spelled blank spelledMore, ?_,
        fun room hw => ?_⟩
      · have hi : octetsOf (',' :: itemChars (next :: items)) =
            0x2C :: octetsOf (itemChars (next :: items)) := rfl
        rw [itemChars, octetsOf_append, hi, hc]
        · simp only [List.nil_append, List.append_assoc, List.cons_append]
        · exact List.cons_ne_nil next items
      · rw [List.mapM_cons, hv room (hw item List.mem_cons_self),
          hm room fun other member => hw other (List.mem_cons_of_mem _ member)]
        rfl

/-- The octets of a named value. -/
theorem octetsOf_entry (name : String) (value more : List Char) :
    octetsOf (textChars name ++ ':' :: value ++ more) =
      0x22 :: (insideOctets name.toList ++ 0x22 :: 0x3A :: (octetsOf value ++ octetsOf more)) := by
  have hc : String.utf8EncodeChar ':' = [0x3A] := rfl
  rw [octetsOf_append, octetsOf_append, octetsOf_textChars]
  simp only [octetsOf, List.flatMap_cons, hc, List.cons_append, List.append_assoc,
    List.nil_append]

/-- The named values of a record are written up to the brace that closes it. -/
theorem exists_entries {entries : List (String × Value)} (hn : entries ≠ [])
    (h : ∀ entry ∈ entries, IsWritten entry.2) :
    ∃ written inner, Spells (.entries written) inner ∧
      octetsOf (entryChars entries) = inner ++ [0x7D] ∧
      ∀ room, (∀ entry ∈ entries, entry.2.Whole room) →
        written.mapM (readEntry room) = some entries := by
  induction entries with
  | nil => exact absurd rfl hn
  | cons entry entries ih =>
    obtain ⟨written, spelled, hv⟩ := h entry List.mem_cons_self
    have blank : AllBlank [] := fun octet member => absurd member List.not_mem_nil
    have named := stands_insideOctets entry.1.toList
    have hr : ∀ room, entry.2.Whole room →
        readEntry room (insideOctets entry.1.toList, written) = some entry := by
      intro room hw
      rw [readEntry, unquoted_of_stands named, hv room hw]
      rfl
    cases entries with
    | nil =>
      refine ⟨[(insideOctets entry.1.toList, written)], _,
        .lastEntry blank named.isInside blank blank spelled blank, ?_, fun room hw => ?_⟩
      · rw [entryChars, octetsOf_entry]
        simp only [List.nil_append, List.append_nil, List.append_assoc, List.cons_append]
        rfl
      · rw [List.mapM_cons, hr room (hw entry List.mem_cons_self)]
        rfl
    | cons next entries =>
      obtain ⟨others, inner, spelledMore, hc, hm⟩ := ih (List.cons_ne_nil next entries)
        fun other member => h other (List.mem_cons_of_mem _ member)
      refine ⟨(insideOctets entry.1.toList, written) :: others, _,
        .nextEntry blank named.isInside blank blank spelled blank spelledMore, ?_,
        fun room hw => ?_⟩
      · have hi : octetsOf (',' :: entryChars (next :: entries)) =
            0x2C :: octetsOf (entryChars (next :: entries)) := rfl
        rw [entryChars, octetsOf_entry, hi, hc]
        · simp only [List.nil_append, List.append_assoc, List.cons_append]
        · exact List.cons_ne_nil next entries
      · rw [List.mapM_cons, hr room (hw entry List.mem_cons_self),
          hm room fun other member => hw other (List.mem_cons_of_mem _ member)]
        rfl

/-- A list of values that are written is written. -/
theorem isWritten_list {items : List Value} (h : ∀ item ∈ items, IsWritten item) :
    IsWritten (.list items) := by
  cases items with
  | nil =>
    exact ⟨.list [], .emptyList fun octet member => absurd member List.not_mem_nil,
      fun room hw => by
        cases room with
        | zero => exact hw.elim
        | succ room => rfl⟩
  | cons item items =>
    obtain ⟨written, inner, spelled, hc, hm⟩ := exists_items (List.cons_ne_nil item items) h
    have hs : octetsOf (Value.list (item :: items)).chars = 0x5B :: (inner ++ [0x5D]) := by
      rw [← hc]
      rfl
    refine ⟨.list written, hs ▸ .list spelled, fun room hw => ?_⟩
    cases room with
    | zero => exact hw.elim
    | succ room =>
      rw [Written.value?, hm room hw]
      rfl

/-- A record of values that are written is written. -/
theorem isWritten_record {entries : List (String × Value)}
    (h : ∀ entry ∈ entries, IsWritten entry.2) : IsWritten (.record entries) := by
  cases entries with
  | nil =>
    exact ⟨.record [], .emptyRecord fun octet member => absurd member List.not_mem_nil,
      fun room hw => by
        cases room with
        | zero => exact hw.elim
        | succ room => rfl⟩
  | cons entry entries =>
    obtain ⟨written, inner, spelled, hc, hm⟩ := exists_entries (List.cons_ne_nil entry entries) h
    have hs : octetsOf (Value.record (entry :: entries)).chars = 0x7B :: (inner ++ [0x7D]) := by
      rw [← hc]
      rfl
    refine ⟨.record written, hs ▸ .record spelled, fun room hw => ?_⟩
    cases room with
    | zero => exact hw.elim
    | succ room =>
      rw [Written.value?]
      change (written.mapM (readEntry room)).map (fun read => Value.record (ordered read)) = _
      rw [hm room hw.2, Option.map_some, ordered_of_ascending hw.1]

/-- A value in a record is smaller than its entries. -/
theorem sizeOf_entry_lt {entry : String × Value} {entries : List (String × Value)}
    (h : entry ∈ entries) : sizeOf entry.2 < sizeOf entries := by
  have hl := List.sizeOf_lt_of_mem h
  have hp : sizeOf entry = 1 + sizeOf entry.1 + sizeOf entry.2 := rfl
  omega

/-- Every value is written. -/
theorem isWritten : (value : Value) → IsWritten value
  | .null => ⟨.null, .null, fun room _ => by rw [Written.value?]⟩
  | .flag true => ⟨.flag true, .truth, fun room _ => by rw [Written.value?]⟩
  | .flag false => ⟨.flag false, .falsehood, fun room _ => by rw [Written.value?]⟩
  | .number content => isWritten_number content
  | .text content => isWritten_text content
  | .list items => isWritten_list fun item _ => isWritten item
  | .record entries => isWritten_record fun entry member =>
    have := sizeOf_entry_lt member
    isWritten entry.2

/-- The octets of a compact form are those of its characters. -/
theorem ofText_compact (value : Value) : Bytes.ofText value.compact = octetsOf value.chars :=
  Bytes.ofText_ofList value.chars

/-- The compact form of a value is well-formed. -/
theorem exists_spelled_compact (value : Value) :
    ∃ written : Written, written.SpelledBy (Bytes.ofText value.compact) := by
  obtain ⟨written, spelled, _⟩ := isWritten value
  have blank : AllBlank [] := fun octet member => absurd member List.not_mem_nil
  refine ⟨written, [], octetsOf value.chars, [], blank, spelled, blank, ?_⟩
  rw [ofText_compact, List.nil_append, List.append_nil]

/-- A whole value is read from its compact form. -/
theorem read_compact {value : Value} (h : value.Whole deepest) :
    Value.read? (Bytes.ofText value.compact) = some value := by
  obtain ⟨written, spelled, hv⟩ := isWritten value
  have blank : AllBlank [] := fun octet member => absurd member List.not_mem_nil
  have hr : Written.read? (Bytes.ofText value.compact) = some written :=
    read_eq_some_iff.mpr ⟨[], octetsOf value.chars, [], blank, spelled, blank, by
      rw [ofText_compact, List.nil_append, List.append_nil]⟩
  rw [Value.read?, hr]
  exact hv deepest h

end MediaGateway.Json
