import MediaGateway.Proofs.Json.Meaning
import MediaGateway.Proofs.Json.Unquoted

/-!
# Written values that are legible

What octets spell has between its quotes only what may stand there. So where such a
value is read, its strings stand for texts and its numbers are in range.
-/

namespace MediaGateway.Json

/-- A written value with nothing between its quotes but what may stand there. -/
inductive Written.Legible : Written → Prop where
  /-- Nothing. -/
  | null : Legible .null
  /-- A truth value. -/
  | flag (content : Bool) : Legible (.flag content)
  /-- A number. -/
  | numeral (content : Numeral) : Legible (.numeral content)
  /-- A string. -/
  | quoted {inside : Bytes} (h : IsInside inside) : Legible (.quoted inside)
  /-- A list. -/
  | list {items : List Written} (h : ∀ item ∈ items, Legible item) : Legible (.list items)
  /-- A record. -/
  | record {entries : List (Bytes × Written)} (names : ∀ entry ∈ entries, IsInside entry.1)
    (values : ∀ entry ∈ entries, Legible entry.2) : Legible (.record entries)

/-- A part of which every value is legible. -/
def IsLegible : Part → Prop
  | .value written => written.Legible
  | .items items => ∀ item ∈ items, item.Legible
  | .entries entries => ∀ entry ∈ entries, IsInside entry.1 ∧ entry.2.Legible

/-- Whatever octets spell is legible. -/
theorem Spells.legible {part : Part} {bytes : Bytes} (h : Spells part bytes) : IsLegible part := by
  induction h with
  | null => exact Written.Legible.null
  | truth => exact Written.Legible.flag true
  | falsehood => exact Written.Legible.flag false
  | @numeral content => exact Written.Legible.numeral content
  | quoted h => exact Written.Legible.quoted h
  | emptyList => exact Written.Legible.list fun item member => absurd member List.not_mem_nil
  | list h ih => exact Written.Legible.list ih
  | emptyRecord =>
    exact Written.Legible.record (fun entry member => absurd member List.not_mem_nil)
      fun entry member => absurd member List.not_mem_nil
  | record h ih =>
    exact Written.Legible.record (fun entry member => (ih entry member).1)
      fun entry member => (ih entry member).2
  | lastItem hb h ha ih => exact List.forall_mem_singleton.mpr ih
  | nextItem hb h ha hm ih more => exact List.forall_mem_cons.mpr ⟨ih, more⟩
  | lastEntry hb hn hm hi h ha ih => exact List.forall_mem_singleton.mpr ⟨hn, ih⟩
  | nextEntry hb hn hm hi h ha hr ih more => exact List.forall_mem_cons.mpr ⟨⟨hn, ih⟩, more⟩

/-- Whatever octets spell with blanks around it is legible. -/
theorem Written.SpelledBy.legible {written : Written} {bytes : Bytes}
    (h : written.SpelledBy bytes) : written.Legible := by
  obtain ⟨_, _, _, _, spells, _⟩ := h
  exact spells.legible

/-- The text that is read from between quotes stands there. -/
theorem Written.Legible.isText {inside : Bytes} (h : (Written.quoted inside).Legible) {text : String}
    (reads : unquoted? inside = some text) : Stands inside text.toList := by
  cases h with
  | quoted may => exact (unquoted_eq_some_iff may).mp reads

/-- What is legible and is read is readable. -/
theorem readable_of_value : {room : Nat} → {written : Written} → {value : Value} →
    written.Legible → written.value? room = some value → written.Readable room
  | _, .null, _, _, _ => by simp only [Written.Readable]
  | _, .flag content, _, _, _ => by simp only [Written.Readable]
  | room, .numeral content, _, _, h => by
    rw [Written.value?] at h
    obtain ⟨number, hn, _⟩ := Option.map_eq_some_iff.mp h
    have hr : content.InRange := Option.ne_none_iff_exists'.mpr ⟨number, hn⟩
    cases room <;> exact hr
  | room, .quoted inside, _, legible, h => by
    rw [Written.value?] at h
    obtain ⟨text, ht, _⟩ := Option.map_eq_some_iff.mp h
    have hi : IsText inside := ⟨text, legible.isText ht⟩
    cases room <;> exact hi
  | 0, .list _, _, _, h => by
    rw [Written.value?] at h
    cases h
  | 0, .record _, _, _, h => by
    rw [Written.value?] at h
    cases h
  | room + 1, .list items, _, legible, h => by
    rw [Written.value?] at h
    obtain ⟨values, hv, _⟩ := Option.map_eq_some_iff.mp h
    intro item member
    obtain ⟨value, _, hi⟩ := exists_of_mem_forall₂ (mapM_eq_some_iff.mp hv).flip member
    cases legible with
    | list each => exact readable_of_value (each item member) hi
  | room + 1, .record entries, _, legible, h => by
    rw [value_record] at h
    obtain ⟨values, hv, _⟩ := Option.map_eq_some_iff.mp h
    intro entry member
    obtain ⟨made, _, he⟩ := exists_of_mem_forall₂ (mapM_eq_some_iff.mp hv).flip member
    have he : readEntry room entry = some made := he
    rw [readEntry] at he
    obtain ⟨name, hn, he⟩ := Option.bind_eq_some_iff.mp he
    obtain ⟨value, hi, _⟩ := Option.map_eq_some_iff.mp he
    cases legible with
    | record names values =>
      exact ⟨⟨name, (unquoted_eq_some_iff (names entry member)).mp hn⟩,
        readable_of_value (values entry member) hi⟩

end MediaGateway.Json
