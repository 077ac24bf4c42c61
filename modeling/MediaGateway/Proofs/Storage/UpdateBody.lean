import MediaGateway.Api.Conversion
import MediaGateway.Proofs.Json.Compact
import MediaGateway.Storage.Remote

/-!
# The body of an update

The body that changes details of a file is a record with one entry for each detail that a
request gives, and none for one that it leaves empty. It is read back as that record, so
two requests have the same body exactly when they give the same details. What is told of
the details has the same names, with underscores in place of capitals.
-/

namespace MediaGateway

open Json (Value)
open Storage (Remote)

namespace Json

/-- The record of a map. -/
def textRecord (map : TextMap) : Value :=
  .record (map.entries.map fun entry => (entry.1, .text entry.2))

/-- The record of a map is that of no other. -/
theorem textRecord_injective {left right : TextMap} (h : textRecord left = textRecord right) :
    left = right := by
  have one : Function.Injective fun entry : String × String => (entry.1, Value.text entry.2) := by
    rintro ⟨key, content⟩ ⟨other, text⟩ same
    obtain ⟨rfl, hv⟩ := Prod.ext_iff.mp same
    exact Prod.ext rfl (Value.text.inj hv)
  have entries := Value.record.inj h
  exact TextMap.ext ((List.map_inj_right fun _ _ same => one same).mp entries)

/-- A list of texts is that of no others. -/
theorem texts_injective {left right : List String} (h : texts left = texts right) :
    left = right := by
  have items := Value.list.inj h
  exact (List.map_inj_right fun _ _ => Value.text.inj).mp items

/-- The record of a map is whole. -/
theorem whole_textRecord (room : Nat) (map : TextMap) : (textRecord map).Whole (room + 1) := by
  have ascending := map.ascending
  refine ⟨List.pairwise_map.mpr ascending, fun entry member => ?_⟩
  obtain ⟨fact, _, rfl⟩ := List.mem_map.mp member
  simp only [Value.Whole]

/-- The entry for a field, unless the field is blank. -/
def entry {α : Type} [DecidableEq α] (name : String) (blank : α) (make : α → Value) (field : α) :
    List (String × Value) :=
  if field = blank then [] else [(name, make field)]

section

variable {α : Type} [DecidableEq α] (name : String) (blank : α) (make : α → Value) (field : α)

/-- There is an entry exactly for a field that is not blank, and it has the value of that. -/
theorem mem_entry (other : String) (value : Value) :
    (other, value) ∈ entry name blank make field ↔
      other = name ∧ field ≠ blank ∧ value = make field := by
  rw [entry]
  by_cases absent : field = blank
  · simp [absent]
  · simp [absent]

/-- The name of a field stands before its value, if the field is not blank. -/
theorem names_entry :
    (entry name blank make field).map Prod.fst = if field = blank then [] else [name] := by
  rw [entry]
  split <;> rfl

/-- A field has one name at most. -/
theorem names_entry_sublist : ((entry name blank make field).map Prod.fst).Sublist [name] := by
  rw [names_entry]
  split
  · exact List.nil_sublist _
  · exact List.Sublist.refl _

/-- A value that is there has an entry. -/
theorem entryOf_present :
    Remote.entryOf name ((if field = blank then none else some field).map make) =
      entry name blank make field := by
  rw [entry]
  split <;> rfl

end

/-- Fields that have the same entries are the same, if their values tell them apart. -/
theorem eq_of_entries {α : Type} {blank left right : α} {make : α → Value} {occurs : Value → Prop}
    (injective : ∀ {one other}, make one = make other → one = other)
    (hl : ∀ value, occurs value ↔ left ≠ blank ∧ value = make left)
    (hr : ∀ value, occurs value ↔ right ≠ blank ∧ value = make right) : left = right := by
  by_cases absent : left = blank
  · by_contra differ
    have present : right ≠ blank := fun also => differ (absent.trans also.symm)
    have there := (hr (make right)).mpr ⟨present, rfl⟩
    exact ((hl _).mp there).1 absent
  · have there := (hl (make left)).mpr ⟨absent, rfl⟩
    exact injective ((hr _).mp there).2

end Json

/-- A name with capitals in place of underscores. -/
def camelCase : List Char → List Char
  | '_' :: char :: rest => char.toUpper :: camelCase rest
  | char :: rest => char :: camelCase rest
  | [] => []

namespace Api.UpdateFileDetailsRequest

/-- The entries for what a request gives. -/
def entries (request : UpdateFileDetailsRequest) : List (String × Value) :=
  Json.entry "customCoordinates" "" .text request.customCoordinates
    ++ Json.entry "customMetadata" .empty Json.textRecord request.customMetadata
    ++ Json.entry "tags" [] Json.texts request.tags

/-- Entries for exactly what a request gives. -/
structure Gives (request : UpdateFileDetailsRequest) (entries : List (String × Value)) : Prop where
  /-- No name comes twice. -/
  distinct : (entries.map Prod.fst).Nodup
  /-- There are tags when the request has some: the same, in order and as often. -/
  tags : ∀ value, ("tags", value) ∈ entries ↔
    request.tags ≠ [] ∧ value = .list (request.tags.map .text)
  /-- There is an area of interest when the request has one. -/
  customCoordinates : ∀ value, ("customCoordinates", value) ∈ entries ↔
    request.customCoordinates ≠ "" ∧ value = .text request.customCoordinates
  /-- There are further facts when the request has some: the same under the same names. -/
  customMetadata : ∀ value, ("customMetadata", value) ∈ entries ↔
    request.customMetadata ≠ .empty ∧
      value = .record (request.customMetadata.entries.map fun fact => (fact.1, .text fact.2))
  /-- There is nothing else. -/
  only : ∀ entry ∈ entries, entry.1 ∈ ["customCoordinates", "customMetadata", "tags"]

/-- The text that is sent for a request. -/
def body (request : UpdateFileDetailsRequest) : String := Remote.updateBody request.toUpdate

/-- The names of the entries are among three, and in their order. -/
theorem names_sublist (request : UpdateFileDetailsRequest) :
    (request.entries.map Prod.fst).Sublist ["customCoordinates", "customMetadata", "tags"] := by
  have coordinates := Json.names_entry_sublist "customCoordinates" "" .text
    request.customCoordinates
  have metadata := Json.names_entry_sublist "customMetadata" .empty Json.textRecord
    request.customMetadata
  have tags := Json.names_entry_sublist "tags" [] Json.texts request.tags
  rw [entries, List.map_append, List.map_append]
  exact (coordinates.append metadata).append tags

/-- Each entry is for one of the fields. -/
theorem mem_entries (request : UpdateFileDetailsRequest) (name : String) (value : Value) :
    (name, value) ∈ request.entries ↔
      (name = "customCoordinates" ∧ request.customCoordinates ≠ "" ∧
        value = .text request.customCoordinates) ∨
      (name = "customMetadata" ∧ request.customMetadata ≠ .empty ∧
        value = Json.textRecord request.customMetadata) ∨
      (name = "tags" ∧ request.tags ≠ [] ∧ value = Json.texts request.tags) := by
  simp only [entries, List.mem_append, Json.mem_entry, or_assoc]

/-- The entries are for exactly what the request gives. -/
theorem gives_entries (request : UpdateFileDetailsRequest) : request.Gives request.entries := by
  have distinct : ["customCoordinates", "customMetadata", "tags"].Nodup := by decide
  refine ⟨distinct.sublist request.names_sublist, fun value => ?_, fun value => ?_, fun value => ?_,
    fun entry there => request.names_sublist.subset (List.mem_map_of_mem there)⟩
  · simp [mem_entries, Json.texts]
  · simp [mem_entries]
  · simp [mem_entries, Json.textRecord]

/-- The body is the compact form of the entries. -/
theorem body_eq (request : UpdateFileDetailsRequest) :
    request.body = (Value.record request.entries).compact := by
  have coordinates := Json.entryOf_present "customCoordinates" "" .text request.customCoordinates
  have metadata := Json.entryOf_present "customMetadata" .empty Json.textRecord
    request.customMetadata
  have tags := Json.entryOf_present "tags" [] Json.texts request.tags
  rw [entries, ← coordinates, ← metadata, ← tags]
  rfl

/-- The body is read back as the entries. -/
theorem read_body (request : UpdateFileDetailsRequest) :
    Value.read? (Bytes.ofText request.body) = some (.record request.entries) := by
  rw [request.body_eq]
  have ascending : ["customCoordinates", "customMetadata", "tags"].Pairwise (· < ·) := by decide
  have ordered : request.entries.Pairwise fun former latter => former.1 < latter.1 :=
    List.pairwise_map.mp (ascending.sublist request.names_sublist)
  refine Json.read_compact ⟨ordered, fun ⟨name, value⟩ there => ?_⟩
  rcases (request.mem_entries name value).mp there with ⟨_, _, rfl⟩ | ⟨_, _, rfl⟩ | ⟨_, _, rfl⟩
  · exact trivial
  · exact Json.whole_textRecord _ request.customMetadata
  · exact Json.whole_texts _ request.tags

/-- Two requests have the same body exactly when they give the same. -/
theorem body_eq_iff (left right : UpdateFileDetailsRequest) :
    left.body = right.body ↔ left.tags = right.tags ∧
      left.customCoordinates = right.customCoordinates ∧
      left.customMetadata = right.customMetadata := by
  constructor
  · intro same
    have hl := left.read_body
    rw [same, right.read_body, Option.some.injEq, Value.record.injEq] at hl
    have gl := left.gives_entries
    have gr := right.gives_entries
    rw [← hl] at gl
    exact ⟨Json.eq_of_entries Json.texts_injective gl.tags gr.tags,
      Json.eq_of_entries Value.text.inj gl.customCoordinates gr.customCoordinates,
      Json.eq_of_entries Json.textRecord_injective gl.customMetadata gr.customMetadata⟩
  · rintro ⟨tags, coordinates, metadata⟩
    rw [body_eq, body_eq, entries, entries, tags, coordinates, metadata]

/-- A field that is told is told by the name of its entry. -/
theorem told_entry {α : Type} [DecidableEq α] {name told : String} (blank : α) (make : α → Value)
    (field : α) (spelled : String.ofList (camelCase told.toList) = name) :
    (if (if field = blank then none else some field).isSome then [told] else []).map
        (fun told => String.ofList (camelCase told.toList)) =
      (Json.entry name blank make field).map Prod.fst := by
  rw [Json.names_entry]
  by_cases absent : field = blank
  · simp [absent]
  · simp [absent, spelled]

/-- The names that are told of an update are those of its entries, with underscores. -/
theorem fieldNames_perm (request : UpdateFileDetailsRequest) :
    (request.toUpdate.fieldNames.map fun told => String.ofList (camelCase told.toList)).Perm
      (request.entries.map Prod.fst) := by
  have tags := told_entry [] Json.texts request.tags
    (by decide : String.ofList (camelCase "tags".toList) = "tags")
  have coordinates := told_entry "" .text request.customCoordinates
    (by decide : String.ofList (camelCase "custom_coordinates".toList) = "customCoordinates")
  have metadata := told_entry .empty Json.textRecord request.customMetadata
    (by decide : String.ofList (camelCase "custom_metadata".toList) = "customMetadata")
  have told : (request.toUpdate.fieldNames.map fun told => String.ofList (camelCase told.toList)) =
      (Json.entry "tags" [] Json.texts request.tags).map Prod.fst ++
        ((Json.entry "customCoordinates" "" .text request.customCoordinates).map Prod.fst ++
          (Json.entry "customMetadata" .empty Json.textRecord request.customMetadata).map
            Prod.fst) := by
    rw [← tags, ← coordinates, ← metadata, ← List.map_append, ← List.map_append,
      ← List.append_assoc]
    rfl
  rw [told, entries, List.map_append, List.map_append]
  exact List.perm_append_comm

end Api.UpdateFileDetailsRequest

end MediaGateway
