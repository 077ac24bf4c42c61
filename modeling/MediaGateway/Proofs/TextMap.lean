import MediaGateway.Proofs.Lists
import MediaGateway.TextMap

/-!
# Entries of a map

A map is settled by the entries that it has. Setting a key adds its entry and
takes away the one that the key had, so a map is rebuilt from its own entries in
whatever order they come.
-/

namespace MediaGateway.TextMap

/-- A key that ascends above another is not that key. -/
theorem ne_of_key_lt {left right : String} (h : left < right) : left ≠ right := by
  rintro rfl
  exact String.lt_irrefl _ h

/-- Ascending entries come once each. -/
theorem nodup_of_ascending {entries : List (String × String)} (ordered : Ascending entries) :
    entries.Nodup := by
  refine List.Pairwise.imp ?_ ordered
  rintro former latter h rfl
  exact String.lt_irrefl _ h

/-- Maps with the same entries are the same. -/
theorem eq_of_mem_iff {left right : TextMap}
    (h : ∀ entry, entry ∈ left.entries ↔ entry ∈ right.entries) : left = right := by
  have hp : left.entries.Perm right.entries :=
    (List.perm_ext_iff_of_nodup (nodup_of_ascending left.ascending)
      (nodup_of_ascending right.ascending)).mpr h
  refine ext (List.Perm.eq_of_pairwise ?_ left.ascending right.ascending hp)
  intro former latter _ _ hl hr
  exact absurd (String.lt_trans hl hr) (String.lt_irrefl _)

/-- After a put the new entry is there, and every old one with another key. -/
theorem mem_put_iff (key value : String) {entries : List (String × String)}
    (ordered : Ascending entries) (entry : String × String) :
    entry ∈ put key value entries ↔ entry = (key, value) ∨ (entry ∈ entries ∧ entry.1 ≠ key) := by
  induction entries with
  | nil => simp only [put, List.mem_singleton, List.not_mem_nil, false_and, or_false]
  | cons first rest ih =>
    obtain ⟨name, old⟩ := first
    obtain ⟨ahead, later⟩ := List.pairwise_cons.mp ordered
    simp only [put]
    split
    · rename_i before
      have hk : ∀ entry ∈ (name, old) :: rest, entry.1 ≠ key := by
        intro entry member
        rcases List.mem_cons.mp member with rfl | deeper
        · exact (ne_of_key_lt before).symm
        · exact (ne_of_key_lt (String.lt_trans before (ahead entry deeper))).symm
      rw [List.mem_cons]
      exact or_congr_right ⟨fun h => ⟨h, hk entry h⟩, And.left⟩
    · split
      · rename_i after
        rw [List.mem_cons, ih later, List.mem_cons]
        constructor
        · rintro (rfl | rfl | ⟨member, other⟩)
          · exact .inr ⟨.inl rfl, ne_of_key_lt after⟩
          · exact .inl rfl
          · exact .inr ⟨.inr member, other⟩
        · rintro (rfl | ⟨rfl | member, other⟩)
          · exact .inr (.inl rfl)
          · exact .inl rfl
          · exact .inr (.inr ⟨member, other⟩)
      · rename_i notBefore notAfter
        have same : key = name :=
          String.le_antisymm (String.not_lt.mp notAfter) (String.not_lt.mp notBefore)
        subst same
        have hk : ∀ entry ∈ rest, entry.1 ≠ key := fun entry member =>
          (ne_of_key_lt (ahead entry member)).symm
        rw [List.mem_cons, List.mem_cons]
        constructor
        · rintro (rfl | member)
          · exact .inl rfl
          · exact .inr ⟨.inr member, hk entry member⟩
        · rintro (rfl | ⟨rfl | member, other⟩)
          · exact .inl rfl
          · exact absurd rfl other
          · exact .inr member

/-- After an insertion the new entry is there, and every old one with another key. -/
theorem mem_insert_iff (map : TextMap) (key value : String) (entry : String × String) :
    entry ∈ (map.insert key value).entries ↔
      entry = (key, value) ∨ (entry ∈ map.entries ∧ entry.1 ≠ key) :=
  mem_put_iff key value map.ascending entry

/-- Entries inserted one after another, none of which has the key of another or of one that is
there. -/
theorem mem_foldl_insert (entries : List (String × String)) (map : TextMap)
    (distinct : (entries.map Prod.fst).Nodup)
    (fresh : ∀ entry ∈ entries, ∀ old ∈ map.entries, old.1 ≠ entry.1) (entry : String × String) :
    entry ∈ (entries.foldl (fun map entry => map.insert entry.1 entry.2) map).entries ↔
      entry ∈ map.entries ∨ entry ∈ entries := by
  induction entries generalizing map with
  | nil => simp only [List.foldl_nil, List.not_mem_nil, or_false]
  | cons first rest ih =>
    obtain ⟨hn, hd⟩ := List.nodup_cons.mp distinct
    have hf : ∀ entry ∈ rest, ∀ old ∈ (map.insert first.1 first.2).entries, old.1 ≠ entry.1 := by
      intro entry member old stored
      rcases (mem_insert_iff map _ _ old).mp stored with rfl | ⟨kept, _⟩
      · intro same
        exact hn (same ▸ List.mem_map_of_mem member)
      · exact fresh entry (List.mem_cons_of_mem _ member) old kept
    rw [List.foldl_cons, ih _ hd hf, mem_insert_iff, List.mem_cons]
    constructor
    · rintro ((rfl | ⟨kept, _⟩) | member)
      · exact .inr (.inl rfl)
      · exact .inl kept
      · exact .inr (.inr member)
    · rintro (kept | rfl | member)
      · exact .inl (.inr ⟨kept, fresh first List.mem_cons_self entry kept⟩)
      · exact .inl (.inl rfl)
      · exact .inr member

/-- A map is rebuilt from its entries in any order. -/
theorem foldl_insert_perm {map : TextMap} {entries : List (String × String)}
    (h : entries.Perm map.entries) :
    entries.foldl (fun map entry => map.insert entry.1 entry.2) empty = map := by
  have hk : (map.entries.map Prod.fst).Nodup :=
    List.pairwise_map.mpr (map.ascending.imp ne_of_key_lt)
  have hd : (entries.map Prod.fst).Nodup := (h.map Prod.fst).nodup_iff.mpr hk
  refine eq_of_mem_iff fun entry => ?_
  rw [mem_foldl_insert entries empty hd (fun _ _ _ stored => absurd stored List.not_mem_nil)]
  simp only [empty, List.not_mem_nil, false_or, h.mem_iff]

/-- What stands last under a key. -/
inductive IsLast {α : Type} (key : String) : List (String × α) → α → Prop where
  /-- Nothing stands under it behind this. -/
  | here {value : α} {rest : List (String × α)} (last : ∀ entry ∈ rest, entry.1 ≠ key) :
    IsLast key ((key, value) :: rest) value
  /-- It stands further behind. -/
  | later {value : α} {entry : String × α} {rest : List (String × α)} (h : IsLast key rest value) :
    IsLast key (entry :: rest) value

/-- After insertions a key has what was inserted last under it, or else what it had. -/
theorem mem_foldl_insert_iff (entries : List (String × String)) (map : TextMap)
    (entry : String × String) :
    entry ∈ (entries.foldl (fun map entry => map.insert entry.1 entry.2) map).entries ↔
      IsLast entry.1 entries entry.2 ∨
        (entry ∈ map.entries ∧ ∀ other ∈ entries, other.1 ≠ entry.1) := by
  induction entries generalizing map with
  | nil =>
    constructor
    · exact fun h => .inr ⟨h, fun other member => absurd member List.not_mem_nil⟩
    · rintro (last | ⟨h, _⟩)
      · cases last
      · exact h
  | cons first rest ih =>
    rw [List.foldl_cons, ih, mem_insert_iff]
    constructor
    · rintro (last | ⟨rfl | ⟨kept, other⟩, none⟩)
      · exact .inl (.later last)
      · exact .inl (.here none)
      · exact .inr ⟨kept, List.forall_mem_cons.mpr ⟨Ne.symm other, none⟩⟩
    · rintro (last | ⟨kept, none⟩)
      · cases last with
        | here none => exact .inr ⟨.inl rfl, none⟩
        | later last => exact .inl last
      · obtain ⟨other, none⟩ := List.forall_mem_cons.mp none
        exact .inr ⟨.inr ⟨kept, Ne.symm other⟩, none⟩

/-- The map of settings has under each key what stands last under it. -/
theorem mem_ofList_iff (settings : List (String × String)) (entry : String × String) :
    entry ∈ (ofList settings).entries ↔ IsLast entry.1 settings entry.2 := by
  rw [ofList, mem_foldl_insert_iff]
  simp only [empty, List.not_mem_nil, false_and, or_false]

/-- What stands last under a key keeps its place when values are related one by one. -/
theorem IsLast.forall₂ {α β : Type} {Related : α → β → Prop} {key : String}
    {entries : List (String × α)} {others : List (String × β)}
    (h : List.Forall₂ (fun entry other => entry.1 = other.1 ∧ Related entry.2 other.2)
      entries others) {value : α} (last : IsLast key entries value) :
    ∃ other, IsLast key others other ∧ Related value other := by
  induction h with
  | nil => cases last
  | cons hr hrest ih =>
    rename_i entry other rest restOther
    cases last with
    | here none =>
      obtain ⟨name, content⟩ := other
      obtain rfl : key = name := hr.1
      refine ⟨content, .here fun later member => ?_, hr.2⟩
      obtain ⟨former, hf, hk⟩ := exists_of_mem_forall₂ hrest member
      exact hk.1 ▸ none former hf
    | later last =>
      obtain ⟨found, hl, hf⟩ := ih last
      exact ⟨found, .later hl, hf⟩

end MediaGateway.TextMap
