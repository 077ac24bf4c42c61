import Mathlib.Data.List.Forall2

/-!
# Lists made item by item

What is made of a list item by item is related to it item by item, so each item has
its counterpart.
-/

namespace MediaGateway

/-- Something is made of all items when something is made of each, and it is related to them as its
parts are. -/
theorem exists_mapM_forall₂ {α β : Type} {make : α → Option β} {Related : α → β → Prop}
    {items : List α} (h : ∀ item ∈ items, ∃ made, make item = some made ∧ Related item made) :
    ∃ all, items.mapM make = some all ∧ List.Forall₂ Related items all := by
  induction items with
  | nil => exact ⟨[], rfl, .nil⟩
  | cons item items ih =>
    obtain ⟨made, hm, hr⟩ := h item List.mem_cons_self
    obtain ⟨all, ha, hf⟩ := ih fun other member => h other (List.mem_cons_of_mem _ member)
    exact ⟨made :: all, by rw [List.mapM_cons, hm, ha]; rfl, .cons hr hf⟩

/-- All is made of items when one thing is made of each, in their order. -/
theorem mapM_eq_some_iff {α β : Type} {make : α → Option β} {items : List α} {all : List β} :
    items.mapM make = some all ↔ List.Forall₂ (fun item made => make item = some made) items all := by
  induction items generalizing all with
  | nil =>
    simp only [List.mapM_nil, Option.pure_def, Option.some.injEq, List.forall₂_nil_left_iff,
      eq_comm]
  | cons item items ih =>
    simp only [List.mapM_cons, Option.bind_eq_bind, Option.bind_eq_some_iff, Option.pure_def,
      Option.some.injEq, List.forall₂_cons_left_iff, ih]
    constructor
    · rintro ⟨first, hf, later, hl, rfl⟩
      exact ⟨first, later, hf, hl, rfl⟩
    · rintro ⟨first, later, hf, hl, rfl⟩
      exact ⟨first, hf, later, hl, rfl⟩

/-- What is related to items one by one is related to one of them each. -/
theorem exists_of_mem_forall₂ {α β : Type} {Related : α → β → Prop} {items : List α}
    {others : List β} (h : List.Forall₂ Related items others) {other : β} (hm : other ∈ others) :
    ∃ item ∈ items, Related item other := by
  induction h with
  | nil => exact absurd hm List.not_mem_nil
  | cons hr _ ih =>
    rcases List.mem_cons.mp hm with rfl | hm
    · exact ⟨_, List.mem_cons_self, hr⟩
    · obtain ⟨item, member, ho⟩ := ih hm
      exact ⟨item, List.mem_cons_of_mem _ member, ho⟩

/-- Items that are related through something in between are so as lists. -/
theorem exists_between {α β γ : Type} {Left : α → β → Prop} {Right : β → γ → Prop}
    {items : List α} {others : List γ}
    (h : List.Forall₂ (fun item other => ∃ middle, Left item middle ∧ Right middle other)
      items others) :
    ∃ middles, List.Forall₂ Left items middles ∧ List.Forall₂ Right middles others := by
  induction h with
  | nil => exact ⟨[], .nil, .nil⟩
  | cons hr _ ih =>
    obtain ⟨middle, hl, hm⟩ := hr
    obtain ⟨middles, left, right⟩ := ih
    exact ⟨middle :: middles, .cons hl left, .cons hm right⟩

end MediaGateway
