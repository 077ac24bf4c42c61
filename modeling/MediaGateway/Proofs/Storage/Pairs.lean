import MediaGateway.Proofs.Url.Form
import MediaGateway.Service.Plan
import MediaGateway.Storage.Remote

/-!
# Texts that a request need not give

What a request leaves empty has no pair. Several texts are given as one, with commas
between them, and are read back from it where none of them has a comma.
-/

namespace MediaGateway

open Storage (Remote)

/-- A pair, unless its value is empty. -/
def given (name value : String) : List Url.Form.Pair := if value = "" then [] else [(name, value)]

/-- A text that is there is a pair. -/
theorem pairOf_presentText (name value : String) :
    Remote.pairOf name (Api.presentText value) = given name value := by
  rw [Api.presentText, given]
  split <;> rfl

/-- Texts that are there are a pair. -/
theorem pairOf_presentList (name : String) (texts : List String) :
    Remote.pairOf name ((Api.presentList texts).map Remote.commaJoined) =
      if texts = [] then [] else [(name, String.intercalate "," texts)] := by
  rw [Api.presentList]
  split <;> rfl

/-- Texts without commas are read back from between commas. -/
theorem splitOn_intercalate {texts : List String} (present : texts ≠ [])
    (plain : ∀ text ∈ texts, ',' ∉ text.toList) :
    ((String.intercalate "," texts).toList.splitOn ',').map String.ofList = texts := by
  have hp : ∀ chars ∈ texts.map String.toList, ',' ∉ chars := by
    intro chars member
    obtain ⟨text, ht, rfl⟩ := List.mem_map.mp member
    exact plain text ht
  have hc : (",").toList = [','] := rfl
  have back : ∀ text ∈ texts, (String.ofList ∘ String.toList) text = text :=
    fun text _ => String.ofList_toList
  rw [String.toList_intercalate, hc, List.splitOn_intercalate ',' hp (by simpa using present),
    List.map_map, List.map_congr_left back, List.map_id']

end MediaGateway
