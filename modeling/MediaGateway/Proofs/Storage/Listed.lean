import Mathlib.Data.List.Nodup
import MediaGateway.Proofs.Storage.Placed

/-!
# Files as they are listed

Each item of a list describes one file. A record does so by its names, and a list of
values does so in place of the record that has these values under the names of the
fields, in their order.
-/

namespace MediaGateway.Storage

open Json (Written)

/-- The names of the fields of a described file, in their order. -/
def fileNames : List String :=
  ["fileId", "name", "url", "thumbnailUrl", "size", "fileType", "tags", "filePath", "createdAt",
    "updatedAt", "width", "height", "customMetadata"]

/-- A written value describes a file. -/
inductive Describes : Written → StoredFile → Prop where
  /-- A record does so by what its names stand for. -/
  | record {entries : List (Bytes × Written)} {named : List (String × Written)} {file : StoredFile}
    (stand : Named entries named) (described : Described named file) :
    Describes (.record entries) file
  /-- A list does so in place of a record with its values under the names in their order. -/
  | list {items : List Written} {file : StoredFile} (short : items.length ≤ fileNames.length)
    (described : Described (fileNames.zip items) file) : Describes (.list items) file

/-- Values under names in their order are read for the fields of these names in their order. -/
theorem mapM_fieldOf_zip {keys : List (List String)} {names : List String}
    (own : List.Forall₂ (fun key name => name ∈ key) keys names)
    (apart : keys.Pairwise List.Disjoint) {items : List Written}
    (short : items.length ≤ keys.length) :
    keys.mapM (Json.fieldOf? (names.zip items)) =
      some (items.map Json.present ++ List.replicate (keys.length - items.length) none) := by
  rw [mapM_eq_some_iff]
  induction own generalizing items with
  | nil =>
    obtain rfl := List.length_eq_zero_iff.mp (Nat.le_zero.mp short)
    exact .nil
  | @cons key name keys names here own ih =>
    obtain ⟨alone, apart⟩ := List.pairwise_cons.mp apart
    cases items with
    | nil =>
      have none_left : ([] : List Written).length ≤ keys.length := Nat.zero_le _
      have hb := ih apart none_left
      rw [List.zip_nil_right] at hb ⊢
      exact .cons rfl hb
    | cons item items =>
      rw [List.zip_cons_cons, List.map_cons, List.cons_append, List.length_cons, List.length_cons,
        Nat.succ_sub_succ]
      refine .cons ?_ ?_
      · have hf : (names.zip items).filter (fun entry => key.contains entry.1) = [] := by
          refine List.filter_eq_nil_iff.mpr fun entry member hk => ?_
          obtain ⟨other, ho, hn⟩ := exists_of_mem_forall₂ own (List.of_mem_zip member).1
          exact alone other ho (List.contains_iff_mem.mp hk) hn
        simp only [Json.fieldOf?, List.filter_cons, List.contains_iff_mem.mpr here, if_true, hf]
      · have hs : ∀ other ∈ keys, Json.fieldOf? ((name, item) :: names.zip items) other =
            Json.fieldOf? (names.zip items) other := by
          intro other ho
          have hn : ¬(other.contains name = true) := fun hk =>
            alone other ho here (List.contains_iff_mem.mp hk)
          simp only [Json.fieldOf?, List.filter_cons, hn, Bool.false_eq_true, if_false]
        have hb := ih apart (Nat.le_of_succ_le_succ short)
        refine List.forall₂_iff_get.mpr ⟨hb.length_eq, fun place hi ht => ?_⟩
        rw [hs _ (List.get_mem keys ⟨place, hi⟩)]
        exact hb.get hi ht

/-- A list that is read as a file is read as the record in whose place it stands. -/
theorem readsFile_of_list {depth : Nat} {items : List Written} {file : StoredFile}
    (h : describedFile? depth (.list items) = some file) :
    items.length ≤ fileNames.length ∧
      ReadsFile (Json.deepest - depth - 1) (fileNames.zip items) file := by
  obtain ⟨fields, hf, hr⟩ := Option.bind_eq_some_iff.mp h
  obtain ⟨short, rfl⟩ := fields_list_iff.mp hf
  have own : List.Forall₂ (fun key name => name ∈ key) fileFields fileNames := by
    simp [fileFields, fileNames]
  have apart : fileFields.Pairwise List.Disjoint := (List.nodup_flatten.mp (by decide)).2
  refine ⟨short, readsFile_iff.mp ?_⟩
  rw [mapM_fieldOf_zip own apart short]
  exact hr

/-- What is legible and is read as a file describes it. -/
theorem describes_of_described {depth : Nat} {written : Written} (legible : written.Legible)
    {file : StoredFile} (h : describedFile? depth written = some file) :
    Describes written file := by
  have deep : Json.deepest - depth - 1 ≤ Json.deepest :=
    Nat.le_trans (Nat.sub_le _ _) (Nat.sub_le _ _)
  cases written with
  | record entries =>
    obtain ⟨fields, hf, _⟩ := Option.bind_eq_some_iff.mp h
    obtain ⟨named, hn, _⟩ := Option.bind_eq_some_iff.mp hf
    have stand := named_of_namedEntries legible hn
    exact .record stand (described_of_readsFile deep (legible_of_named legible stand)
      ((fileOfFields_iff hn).mp h))
  | list items =>
    obtain ⟨short, reads⟩ := readsFile_of_list h
    cases legible with
    | list each =>
      exact .list short (described_of_readsFile deep
        (fun entry member => each _ (List.of_mem_zip member).2) reads)
  | _ => cases h

/-- The files of a page are those that the items of a list describe, in their order. -/
theorem describes_of_readFiles {body : Bytes} {files : List StoredFile}
    (h : readFiles? body = some files) :
    ∃ items, (Written.list items).SpelledBy body ∧ List.Forall₂ Describes items files := by
  obtain ⟨items, spelled, described⟩ := readFiles_eq_some_iff.mp h
  cases spelled.legible with
  | list each =>
    refine ⟨items, spelled, List.forall₂_iff_get.mpr ⟨described.length_eq, fun place hi ht => ?_⟩⟩
    exact describes_of_described (each _ (List.get_mem items ⟨place, hi⟩)) (described.get hi ht)

end MediaGateway.Storage
