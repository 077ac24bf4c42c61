import MediaGateway.Proofs.Json.Compact
import MediaGateway.Proofs.Lists
import MediaGateway.Proofs.TextMap

/-!
# What written values mean

A written value means a value when its strings stand for texts, its numbers stay in
range and not too many lists and records stand inside one another. What it means has
the names of every record in strict order, so where its numbers are whole its compact
form means the same.
-/

namespace MediaGateway.Json

/-- A number in the range of double precision: reading it does not lead beyond. -/
def Numeral.InRange (numeral : Numeral) : Prop := numeral.number? ≠ none

/-- Octets between quotes that stand for some text. -/
def IsText (inside : Bytes) : Prop := ∃ text : String, Stands inside text.toList

/-- A written value whose strings stand for texts and whose numbers stay in range, with at most
`room` lists and records inside one another. -/
def Written.Readable : (room : Nat) → Written → Prop
  | _, .null => True
  | _, .flag _ => True
  | _, .numeral content => content.InRange
  | _, .quoted inside => IsText inside
  | 0, .list _ => False
  | 0, .record _ => False
  | room + 1, .list items => ∀ item ∈ items, Readable room item
  | room + 1, .record entries => ∀ entry ∈ entries, IsText entry.1 ∧ Readable room entry.2

/-- Octets that stand for characters are read as their text. -/
theorem unquoted_of_isText {inside : Bytes} (h : IsText inside) :
    ∃ text : String, Stands inside text.toList ∧ unquoted? inside = some text :=
  h.imp fun _ stands => ⟨stands, unquoted_of_stands stands⟩

/-- What octets stand for is one text at most. -/
theorem Stands.unique {inside : Bytes} {left right : String} (hl : Stands inside left.toList)
    (hr : Stands inside right.toList) : left = right :=
  Option.some.inj ((unquoted_of_stands hl).symm.trans (unquoted_of_stands hr))

/-- A record is read entry by entry. -/
theorem value_record (room : Nat) (entries : List (Bytes × Written)) :
    (Written.record entries).value? (room + 1) =
      (entries.mapM (readEntry room)).map fun entries => .record (ordered entries) := by
  rw [Written.value?]
  rfl

/-- What is readable is read. -/
theorem exists_value : {room : Nat} → {written : Written} → written.Readable room →
    ∃ value, written.value? room = some value
  | _, .null, _ => ⟨.null, by rw [Written.value?]⟩
  | _, .flag content, _ => ⟨.flag content, by rw [Written.value?]⟩
  | room, .numeral content, h => by
    have hr : content.InRange := by cases room <;> exact h
    obtain ⟨number, hn⟩ := Option.ne_none_iff_exists'.mp hr
    exact ⟨.number number, by rw [Written.value?, hn]; rfl⟩
  | room, .quoted inside, h => by
    have hi : IsText inside := by cases room <;> exact h
    obtain ⟨text, _, ht⟩ := unquoted_of_isText hi
    exact ⟨.text text, by rw [Written.value?, ht]; rfl⟩
  | 0, .list _, h => h.elim
  | 0, .record _, h => h.elim
  | room + 1, .list items, h => by
    have hr : ∀ item ∈ items, ∃ made, item.value? room = some made ∧ True :=
      fun item member => (exists_value (h item member)).imp fun _ hi => ⟨hi, trivial⟩
    obtain ⟨values, hv, _⟩ := exists_mapM_forall₂ hr
    exact ⟨.list values, by rw [Written.value?, hv]; rfl⟩
  | room + 1, .record entries, h => by
    have hr : ∀ entry ∈ entries, ∃ made, readEntry room entry = some made ∧ True := by
      intro entry member
      obtain ⟨named, readable⟩ := h entry member
      obtain ⟨text, _, ht⟩ := unquoted_of_isText named
      obtain ⟨value, hv⟩ := exists_value readable
      exact ⟨(text, value), by rw [readEntry, ht, hv]; rfl, trivial⟩
    obtain ⟨values, hv, _⟩ := exists_mapM_forall₂ hr
    exact ⟨.record (ordered values), by rw [value_record, hv]; rfl⟩

/-! ## Whole numbers -/

/-- A number that is written with digits alone, and what they make with the sign. Zero with a sign
is no whole number. -/
structure Numeral.Writes (numeral : Numeral) (value : Int) : Prop where
  /-- There is no point. -/
  fraction : numeral.fraction = []
  /-- There is no exponent. -/
  exponent : numeral.exponent = none
  /-- The digits make the value. -/
  value : (numeral.isNegative = false ∧ value = digitsValue numeral.whole) ∨
    (numeral.isNegative = true ∧ digitsValue numeral.whole ≠ 0 ∧
      value = -(digitsValue numeral.whole : Int))

/-- A number that is kept in double precision has a sign and a size. -/
theorem real_of_real? {numeral : Numeral} {number : Number} (h : numeral.real? = some number) :
    ∃ isNegative size, number = .real isNegative size := by
  rw [Numeral.real?] at h
  obtain ⟨size, _, rfl⟩ := Option.map_eq_some_iff.mp h
  exact ⟨_, _, rfl⟩

/-- A number that is kept in double precision is no whole number. -/
theorem integer_of_real {numeral : Numeral} (h : numeral.number? = numeral.real?) :
    numeral.integer? = none := by
  rw [Numeral.integer?, h]
  cases hr : numeral.real? with
  | none => rfl
  | some number =>
    obtain ⟨isNegative, size, rfl⟩ := real_of_real? hr
    rfl

/-- A number that is not written with digits alone is no whole number. -/
theorem integer_of_not_isWhole {numeral : Numeral} (h : ¬numeral.isWhole = true) :
    numeral.integer? = none :=
  integer_of_real (by
    simp only [Numeral.number?, eq_false_of_ne_true h, Bool.not_false, if_true])

/-- Digits without a sign are a whole number if they fit in 64 bits. -/
theorem integer_of_natural {numeral : Numeral} (h : numeral.isWhole = true)
    (hn : numeral.isNegative = false) :
    numeral.integer? = if digitsValue numeral.whole < Nat.pow 2 64 then
      some (digitsValue numeral.whole : Int) else none := by
  split
  next hb =>
    simp only [Numeral.integer?, Numeral.number?, h, hn, Bool.not_true, Bool.false_eq_true,
      if_false, hb, if_true]
  next hb =>
    exact integer_of_real (by
      simp only [Numeral.number?, h, hn, Bool.not_true, Bool.false_eq_true, if_false, hb])

/-- Digits with a sign are a whole number if they are not zero and fit in 64 bits with it. -/
theorem integer_of_negative {numeral : Numeral} (h : numeral.isWhole = true)
    (hn : numeral.isNegative = true) :
    numeral.integer? =
      if digitsValue numeral.whole = 0 ∨ Nat.pow 2 63 < digitsValue numeral.whole then none
      else some (-(digitsValue numeral.whole : Int)) := by
  split
  next hb =>
    exact integer_of_real (by
      simp only [Numeral.number?, h, hn, Bool.not_true, Bool.false_eq_true, if_false, if_true, hb])
  next hb =>
    simp only [Numeral.integer?, Numeral.number?, h, hn, Bool.not_true, Bool.false_eq_true,
      if_false, if_true, hb]

/-- What a number without a sign writes. -/
theorem Numeral.writes_natural {numeral : Numeral} (h : numeral.isWhole = true)
    (hn : numeral.isNegative = false) {value : Int} :
    numeral.Writes value ↔ value = digitsValue numeral.whole := by
  rw [isWhole, Bool.and_eq_true, decide_eq_true_eq, Option.isNone_iff_eq_none] at h
  refine ⟨fun writes => ?_, fun hv => ⟨h.1, h.2, .inl ⟨hn, hv⟩⟩⟩
  rcases writes.value with ⟨_, hv⟩ | ⟨hc, _⟩
  · exact hv
  · exact absurd (hn.symm.trans hc) Bool.noConfusion

/-- What a number with a sign writes. -/
theorem Numeral.writes_negative {numeral : Numeral} (h : numeral.isWhole = true)
    (hn : numeral.isNegative = true) {value : Int} :
    numeral.Writes value ↔
      digitsValue numeral.whole ≠ 0 ∧ value = -(digitsValue numeral.whole : Int) := by
  rw [isWhole, Bool.and_eq_true, decide_eq_true_eq, Option.isNone_iff_eq_none] at h
  refine ⟨fun writes => ?_, fun hv => ⟨h.1, h.2, .inr ⟨hn, hv⟩⟩⟩
  rcases writes.value with ⟨hc, _⟩ | ⟨_, hv⟩
  · exact absurd (hn.symm.trans hc) Bool.noConfusion
  · exact hv

/-- A number is read as a whole one exactly when it is written as one that 64 bits hold, with a
sign or without. -/
theorem integer_eq_some_iff {numeral : Numeral} {value : Int} :
    numeral.integer? = some value ↔
      numeral.Writes value ∧ -(Nat.pow 2 63 : Nat) ≤ value ∧ value < (Nat.pow 2 64 : Nat) := by
  have hl : Nat.pow 2 63 = 9223372036854775808 := rfl
  have hu : Nat.pow 2 64 = 18446744073709551616 := rfl
  by_cases hs : numeral.isWhole = true
  · cases hn : numeral.isNegative with
    | false =>
      rw [integer_of_natural hs hn, Numeral.writes_natural hs hn]
      split <;> simp only [Option.some.injEq, reduceCtorEq, false_iff] <;> omega
    | true =>
      rw [integer_of_negative hs hn, Numeral.writes_negative hs hn]
      split <;> simp only [Option.some.injEq, reduceCtorEq, false_iff] <;> omega
  · rw [integer_of_not_isWhole hs]
    refine iff_of_false (Option.some_ne_none _).symm ?_
    rintro ⟨writes, _⟩
    refine hs ?_
    rw [Numeral.isWhole, writes.fraction, writes.exponent]
    rfl

/-! ## Names in order -/

/-- An entry is put among others as it is in a map, whatever is made of the values. -/
theorem put_map (make : Value → String) (name : String) (value : Value)
    (sorted : List (String × Value)) :
    ((put name value sorted).map fun entry => (entry.1, make entry.2)) =
      TextMap.put name (make value) (sorted.map fun entry => (entry.1, make entry.2)) := by
  induction sorted with
  | nil => rfl
  | cons first rest ih =>
    simp only [put, List.map_cons, TextMap.put]
    split
    · rfl
    · split
      · rw [List.map_cons, ih]
      · rfl

/-- Entries are ordered as the entries of a map are, whatever is made of their values. -/
theorem ordered_map (make : Value → String) (entries : List (String × Value)) :
    ((ordered entries).map fun entry => (entry.1, make entry.2)) =
      (TextMap.ofList (entries.map fun entry => (entry.1, make entry.2))).entries := by
  have hf : ∀ (rest sorted : List (String × Value)) (map : TextMap),
      (sorted.map fun entry => (entry.1, make entry.2)) = map.entries →
        ((rest.foldl (fun sorted entry => put entry.1 entry.2 sorted) sorted).map
            fun entry => (entry.1, make entry.2)) =
          ((rest.map fun entry => (entry.1, make entry.2)).foldl
            (fun map entry => map.insert entry.1 entry.2) map).entries := by
    intro rest
    induction rest with
    | nil => exact fun sorted map h => h
    | cons entry rest ih =>
      intro sorted map h
      rw [List.foldl_cons, List.map_cons, List.foldl_cons]
      exact ih _ _ (by rw [put_map, h]; rfl)
  exact hf entries [] .empty rfl

/-- Ordered entries have their names in strict order. -/
theorem ordered_ascending (entries : List (String × Value)) :
    (ordered entries).Pairwise fun former latter => former.1 < latter.1 := by
  have ha := (TextMap.ofList (entries.map fun entry => (entry.1, ""))).ascending
  rw [← ordered_map fun _ => "", Ascending, List.pairwise_map] at ha
  exact ha

/-- After a put there is the new entry and nothing else that was not there. -/
theorem mem_of_mem_put {name : String} {value : Value} {entry : String × Value}
    {sorted : List (String × Value)} (h : entry ∈ put name value sorted) :
    entry = (name, value) ∨ entry ∈ sorted := by
  induction sorted with
  | nil => exact .inl (List.mem_singleton.mp h)
  | cons first rest ih =>
    simp only [put] at h
    split at h
    · exact List.mem_cons.mp h
    · split at h
      · rcases List.mem_cons.mp h with rfl | h
        · exact .inr List.mem_cons_self
        · exact (ih h).imp_right (List.mem_cons_of_mem _)
      · exact (List.mem_cons.mp h).imp_right (List.mem_cons_of_mem _)

/-- Every ordered entry is one of the entries. -/
theorem mem_of_mem_ordered {entries : List (String × Value)} {entry : String × Value}
    (h : entry ∈ ordered entries) : entry ∈ entries := by
  have hf : ∀ (rest sorted : List (String × Value)),
      entry ∈ rest.foldl (fun sorted entry => put entry.1 entry.2 sorted) sorted →
        entry ∈ rest ∨ entry ∈ sorted := by
    intro rest
    induction rest with
    | nil => exact fun sorted h => .inr h
    | cons first rest ih =>
      intro sorted h
      rcases ih _ h with h | h
      · exact .inl (List.mem_cons_of_mem _ h)
      · rcases mem_of_mem_put h with rfl | h
        · exact .inl List.mem_cons_self
        · exact .inr h
  exact (hf entries [] h).resolve_right List.not_mem_nil

/-! ## Whole values -/

/-- A number that is not whole stands somewhere in a value. -/
inductive HasReal : Value → Prop where
  /-- It is the value. -/
  | here {isNegative : Bool} {size : Binary64} : HasReal (.number (.real isNegative size))
  /-- It stands in a list. -/
  | inList {items : List Value} {item : Value} (member : item ∈ items) (h : HasReal item) :
    HasReal (.list items)
  /-- It stands in a record. -/
  | inRecord {entries : List (String × Value)} {entry : String × Value} (member : entry ∈ entries)
    (h : HasReal entry.2) : HasReal (.record entries)

/-- A number that is read is whole and fits 64 bits, or it is no whole number. -/
theorem isWhole_of_number {numeral : Numeral} {number : Number}
    (h : numeral.number? = some number) :
    number.IsWhole ∨ ∃ isNegative size, number = .real isNegative size := by
  rw [Numeral.number?] at h
  split at h
  · exact .inr (real_of_real? h)
  · split at h
    · split at h
      · exact .inr (real_of_real? h)
      next hb =>
        obtain rfl := Option.some.inj h
        rw [not_or] at hb
        exact .inl ⟨hb.1, Nat.not_lt.mp hb.2⟩
    · split at h
      next hb =>
        obtain rfl := Option.some.inj h
        exact .inl hb
      · exact .inr (real_of_real? h)

/-- What is read is whole when all its numbers are. -/
theorem whole_of_value : {room : Nat} → {written : Written} → {value : Value} →
    written.value? room = some value → ¬HasReal value → value.Whole room
  | _, .null, _, h, _ => by
    rw [Written.value?] at h
    obtain rfl := Option.some.inj h
    simp only [Value.Whole]
  | _, .flag content, _, h, _ => by
    rw [Written.value?] at h
    obtain rfl := Option.some.inj h
    simp only [Value.Whole]
  | room, .numeral content, _, h, hn => by
    rw [Written.value?] at h
    obtain ⟨number, hr, rfl⟩ := Option.map_eq_some_iff.mp h
    rcases isWhole_of_number hr with hw | ⟨isNegative, size, rfl⟩
    · cases room <;> exact hw
    · exact absurd .here hn
  | _, .quoted inside, _, h, _ => by
    rw [Written.value?] at h
    obtain ⟨text, _, rfl⟩ := Option.map_eq_some_iff.mp h
    simp only [Value.Whole]
  | 0, .list _, _, h, _ => by
    rw [Written.value?] at h
    cases h
  | 0, .record _, _, h, _ => by
    rw [Written.value?] at h
    cases h
  | room + 1, .list items, _, h, hn => by
    rw [Written.value?] at h
    obtain ⟨values, hv, rfl⟩ := Option.map_eq_some_iff.mp h
    intro item member
    obtain ⟨written, _, hi⟩ := exists_of_mem_forall₂ (mapM_eq_some_iff.mp hv) member
    exact whole_of_value hi fun hr => hn (.inList member hr)
  | room + 1, .record entries, _, h, hn => by
    rw [value_record] at h
    obtain ⟨values, hv, rfl⟩ := Option.map_eq_some_iff.mp h
    refine ⟨ordered_ascending values, fun entry member => ?_⟩
    obtain ⟨written, _, he⟩ :=
      exists_of_mem_forall₂ (mapM_eq_some_iff.mp hv) (mem_of_mem_ordered member)
    rw [readEntry] at he
    obtain ⟨name, _, he⟩ := Option.bind_eq_some_iff.mp he
    obtain ⟨value, hi, rfl⟩ := Option.map_eq_some_iff.mp he
    exact whole_of_value hi fun hr => hn (.inRecord member hr)

/-- More room leaves the value that is written as it is. -/
theorem value_more : {room : Nat} → {written : Written} → {value : Value} →
    written.value? room = some value → written.value? (room + 1) = some value
  | _, .null, _, h => by
    rw [Written.value?] at h ⊢
    exact h
  | _, .flag _, _, h => by
    rw [Written.value?] at h ⊢
    exact h
  | _, .numeral _, _, h => by
    rw [Written.value?] at h ⊢
    exact h
  | _, .quoted _, _, h => by
    rw [Written.value?] at h ⊢
    exact h
  | 0, .list _, _, h => by
    rw [Written.value?] at h
    cases h
  | 0, .record _, _, h => by
    rw [Written.value?] at h
    cases h
  | room + 1, .list items, _, h => by
    rw [Written.value?] at h ⊢
    obtain ⟨values, hv, rfl⟩ := Option.map_eq_some_iff.mp h
    rw [mapM_eq_some_iff.mpr ((mapM_eq_some_iff.mp hv).imp fun item made => value_more)]
    rfl
  | room + 1, .record entries, _, h => by
    rw [value_record] at h ⊢
    obtain ⟨values, hv, rfl⟩ := Option.map_eq_some_iff.mp h
    have hm : ∀ entry made, readEntry room entry = some made →
        readEntry (room + 1) entry = some made := by
      intro entry made he
      rw [readEntry] at he ⊢
      obtain ⟨name, hn, he⟩ := Option.bind_eq_some_iff.mp he
      obtain ⟨value, hi, rfl⟩ := Option.map_eq_some_iff.mp he
      rw [hn, Option.bind_some, value_more hi, Option.map_some]
    rw [mapM_eq_some_iff.mpr ((mapM_eq_some_iff.mp hv).imp hm)]
    rfl

/-- As much room as there may be leaves it as it is too. -/
theorem value_deepest {room : Nat} (hr : room ≤ deepest) {written : Written} {value : Value}
    (h : written.value? room = some value) : written.value? deepest = some value := by
  obtain ⟨extra, he⟩ := Nat.exists_eq_add_of_le hr
  rw [he]
  clear he hr
  induction extra with
  | zero => exact h
  | succ extra ih => exact value_more ih

/-- Where no number stands that is not whole, the compact form of what is written means the
same. -/
theorem read_compact_of_value {written : Written} {value : Value}
    (h : written.value? deepest = some value) (hn : ¬HasReal value) :
    Value.read? (Bytes.ofText value.compact) = some value :=
  read_compact (whole_of_value h hn)

end MediaGateway.Json
