/-!
# Maps from text to text

A map is its list of entries in strictly ascending order of their keys, so two
maps with the same entries are the same map. Setting a key that is present
replaces its value.
-/

namespace MediaGateway

/-- Whether the keys of entries ascend strictly. -/
def Ascending (entries : List (String × String)) : Prop :=
  entries.Pairwise fun former latter => former.1 < latter.1

/-- A finite map from text to text. -/
structure TextMap where
  /-- The entries in the order of their keys. -/
  entries : List (String × String)
  /-- No key comes twice and the smaller key comes first. -/
  ascending : Ascending entries

namespace TextMap

/-- Two maps with the same entries are equal. -/
@[ext] theorem ext {left right : TextMap} (same : left.entries = right.entries) : left = right := by
  cases left; cases right; cases same; rfl

instance : DecidableEq TextMap := fun left right =>
  if same : left.entries = right.entries then isTrue (ext same)
  else isFalse fun equal => same (congrArg TextMap.entries equal)

/-- The map without entries. -/
def empty : TextMap := ⟨[], List.Pairwise.nil⟩

/-- Entries with one more key, which takes the place that its order gives it. -/
def put (key value : String) : List (String × String) → List (String × String)
  | [] => [(key, value)]
  | (first, old) :: rest =>
    if key < first then (key, value) :: (first, old) :: rest
    else if first < key then (first, old) :: put key value rest
    else (key, value) :: rest

/-- Every entry after a put is the new one or an old one. -/
theorem mem_put {key value : String} {entry : String × String} {entries : List (String × String)}
    (member : entry ∈ put key value entries) : entry = (key, value) ∨ entry ∈ entries := by
  induction entries with
  | nil => exact .inl (List.mem_singleton.1 member)
  | cons first rest ih =>
    obtain ⟨name, old⟩ := first
    simp only [put] at member
    split at member
    · simpa using member
    · split at member
      · rcases List.mem_cons.1 member with equal | later
        · exact .inr (by simp [equal])
        · rcases ih later with equal | kept
          · exact .inl equal
          · exact .inr (List.mem_cons_of_mem _ kept)
      · rcases List.mem_cons.1 member with equal | kept
        · exact .inl equal
        · exact .inr (List.mem_cons_of_mem _ kept)

/-- Putting a key keeps the entries ascending. -/
theorem ascending_put (key value : String) {entries : List (String × String)}
    (ordered : Ascending entries) : Ascending (put key value entries) := by
  induction entries with
  | nil => exact List.pairwise_singleton _ _
  | cons first rest ih =>
    obtain ⟨name, old⟩ := first
    obtain ⟨ahead, later⟩ := List.pairwise_cons.1 ordered
    simp only [put]
    split
    · rename_i before
      refine List.pairwise_cons.2 ⟨?_, ordered⟩
      intro entry member
      rcases List.mem_cons.1 member with equal | deeper
      · simpa [equal] using before
      · exact String.lt_trans before (ahead entry deeper)
    · split
      · rename_i after
        refine List.pairwise_cons.2 ⟨?_, ih later⟩
        intro entry member
        rcases mem_put member with equal | deeper
        · simpa [equal] using after
        · exact ahead entry deeper
      · rename_i notBefore notAfter
        have same : key = name :=
          String.le_antisymm (String.not_lt.1 notAfter) (String.not_lt.1 notBefore)
        refine List.pairwise_cons.2 ⟨?_, later⟩
        intro entry member
        simpa [same] using ahead entry member

/-- The map with a key set to a value. -/
def insert (map : TextMap) (key value : String) : TextMap :=
  ⟨put key value map.entries, ascending_put key value map.ascending⟩

/-- The map of a list of settings, the last of equal keys winning. -/
def ofList (settings : List (String × String)) : TextMap :=
  settings.foldl (fun map setting => map.insert setting.1 setting.2) empty

/-- Whether a map has no entries. -/
def isEmpty (map : TextMap) : Bool := map.entries.isEmpty

instance : Inhabited TextMap := ⟨empty⟩

end TextMap

end MediaGateway
