import MediaGateway.Proofs.Storage.Field

/-!
# What a description of a file says

The provider describes a file in a record with thirteen fields. What the file is then
follows from the record field by field, and other names do not matter.
-/

namespace MediaGateway.Storage

open Json (Written)

/-- The fields of a described file: their names, and the values that each may have. -/
def fileShapes : List (List String × (Written → Prop)) := [
  (["fileId"], IsQuoted), (["name"], IsQuoted), (["url"], IsQuoted),
  (["thumbnailUrl", "thumbnail"], IsQuoted), (["size"], IsInteger (Int.pow 2 63)),
  (["fileType"], IsQuoted), (["tags"], IsTexts), (["filePath"], IsQuoted),
  (["createdAt"], IsQuoted), (["updatedAt"], IsQuoted), (["width"], IsInteger (Int.pow 2 31)),
  (["height"], IsInteger (Int.pow 2 31)), (["customMetadata"], IsRecord)]

/-- A record that describes a file. -/
def Accepts (named : List (String × Written)) : Prop :=
  ∀ shape ∈ fileShapes, Fits named shape.1 shape.2

/-- The folder of a path: all up to its last slash. -/
def IsFolder (path folder : String) : Prop :=
  ∃ name : String, path = folder ++ name ∧ '/' ∉ name.toList ∧
    (folder = "" ∨ ∃ front : String, folder = front ++ "/")

/-- The file that a record describes. -/
structure Described (named : List (String × Written)) (file : StoredFile) : Prop where
  /-- Its identifier. -/
  fileId : Field named ["fileId"] MeansText "" file.fileId
  /-- Its name. -/
  name : Field named ["name"] MeansText "" file.name
  /-- Its address. -/
  url : Field named ["url"] MeansText "" file.url
  /-- The address of a small picture, under either name. -/
  thumbnailUrl : Field named ["thumbnailUrl", "thumbnail"] MeansText "" file.thumbnailUrl
  /-- Its size. -/
  size : Field named ["size"] (MeansInteger Int64.toInt) 0 file.size
  /-- Its kind. -/
  fileType : Field named ["fileType"] MeansText "" file.fileType
  /-- Its tags. -/
  tags : Field named ["tags"] MeansTexts [] file.tags
  /-- The folder of its path. -/
  folderPath : ∃ path, Field named ["filePath"] MeansText "" path ∧ IsFolder path file.folderPath
  /-- When it was stored. -/
  createdAt : Field named ["createdAt"] MeansText "" file.createdAt
  /-- When it was changed. -/
  updatedAt : Field named ["updatedAt"] MeansText "" file.updatedAt
  /-- Its width. -/
  width : Field named ["width"] (MeansInteger Int32.toInt) 0 file.width
  /-- Its height. -/
  height : Field named ["height"] (MeansInteger Int32.toInt) 0 file.height
  /-- Its further facts. -/
  customMetadata : Field named ["customMetadata"] MeansFacts TextMap.empty file.customMetadata

/-- The folder of a path is all up to its last slash. -/
theorem isFolder_folderOf (path : String) : IsFolder path (folderOf path) := by
  have hs := List.takeWhile_append_dropWhile (p := (· ≠ '/')) (l := path.toList.reverse)
  have hp : path.toList = (path.toList.reverse.dropWhile (· ≠ '/')).reverse ++
      (path.toList.reverse.takeWhile (· ≠ '/')).reverse := by
    rw [← List.reverse_append, hs, List.reverse_reverse]
  refine ⟨String.ofList (path.toList.reverse.takeWhile (· ≠ '/')).reverse, ?_, ?_, ?_⟩
  · rw [folderOf, ← String.ofList_append, ← hp, String.ofList_toList]
  · rw [String.toList_ofList, List.mem_reverse]
    intro member
    have hn := List.all_eq_true.mp List.all_takeWhile '/' member
    exact absurd hn (by decide)
  · rw [folderOf]
    cases hd : path.toList.reverse.dropWhile (· ≠ '/') with
    | nil => exact .inl rfl
    | cons char rest =>
      have hc : ¬(decide (char ≠ '/') = true) := by
        have hh := List.head_dropWhile_not (p := (· ≠ '/')) (l := path.toList.reverse)
          (by rw [hd]; exact List.cons_ne_nil _ _)
        simp only [hd, List.head_cons] at hh
        exact ne_true_of_eq_false hh
      obtain rfl : char = '/' := by simpa using hc
      refine .inr ⟨String.ofList rest.reverse, ?_⟩
      rw [List.reverse_cons, String.ofList_append]

/-- The file that is read from the fields of a record, one by one. -/
structure ReadsFile (room : Nat) (named : List (String × Written)) (file : StoredFile) : Prop where
  /-- Its identifier. -/
  fileId : ReadsField named ["fileId"] textField file.fileId
  /-- Its name. -/
  name : ReadsField named ["name"] textField file.name
  /-- Its address. -/
  url : ReadsField named ["url"] textField file.url
  /-- The address of a small picture. -/
  thumbnailUrl : ReadsField named ["thumbnailUrl", "thumbnail"] textField file.thumbnailUrl
  /-- Its size. -/
  size : ReadsField named ["size"] longField file.size
  /-- Its kind. -/
  fileType : ReadsField named ["fileType"] textField file.fileType
  /-- Its tags. -/
  tags : ReadsField named ["tags"] textsField file.tags
  /-- The folder of its path. -/
  folderPath : ∃ path, ReadsField named ["filePath"] textField path ∧
    file.folderPath = folderOf path
  /-- When it was stored. -/
  createdAt : ReadsField named ["createdAt"] textField file.createdAt
  /-- When it was changed. -/
  updatedAt : ReadsField named ["updatedAt"] textField file.updatedAt
  /-- Its width. -/
  width : ReadsField named ["width"] shortField file.width
  /-- Its height. -/
  height : ReadsField named ["height"] shortField file.height
  /-- Its further facts. -/
  customMetadata : ReadsField named ["customMetadata"] (factsField room) file.customMetadata

/-- A file is read from its thirteen fields one after another. -/
theorem fileOfFields_eq_some_iff {room : Nat}
    {f1 f2 f3 f4 f5 f6 f7 f8 f9 f10 f11 f12 f13 : Option Written} {file : StoredFile} :
    fileOfFields? room [f1, f2, f3, f4, f5, f6, f7, f8, f9, f10, f11, f12, f13] = some file ↔
      textField f1 = some file.fileId ∧ textField f2 = some file.name ∧
      textField f3 = some file.url ∧ textField f4 = some file.thumbnailUrl ∧
      longField f5 = some file.size ∧ textField f6 = some file.fileType ∧
      textsField f7 = some file.tags ∧
      (∃ path, textField f8 = some path ∧ file.folderPath = folderOf path) ∧
      textField f9 = some file.createdAt ∧ textField f10 = some file.updatedAt ∧
      shortField f11 = some file.width ∧ shortField f12 = some file.height ∧
      factsField room f13 = some file.customMetadata := by
  constructor
  · intro h
    rw [fileOfFields?] at h
    obtain ⟨_, r1, h⟩ := Option.bind_eq_some_iff.mp h
    obtain ⟨_, r2, h⟩ := Option.bind_eq_some_iff.mp h
    obtain ⟨_, r3, h⟩ := Option.bind_eq_some_iff.mp h
    obtain ⟨_, r4, h⟩ := Option.bind_eq_some_iff.mp h
    obtain ⟨_, r5, h⟩ := Option.bind_eq_some_iff.mp h
    obtain ⟨_, r6, h⟩ := Option.bind_eq_some_iff.mp h
    obtain ⟨_, r7, h⟩ := Option.bind_eq_some_iff.mp h
    obtain ⟨path, r8, h⟩ := Option.bind_eq_some_iff.mp h
    obtain ⟨_, r9, h⟩ := Option.bind_eq_some_iff.mp h
    obtain ⟨_, r10, h⟩ := Option.bind_eq_some_iff.mp h
    obtain ⟨_, r11, h⟩ := Option.bind_eq_some_iff.mp h
    obtain ⟨_, r12, h⟩ := Option.bind_eq_some_iff.mp h
    obtain ⟨_, r13, h⟩ := Option.bind_eq_some_iff.mp h
    obtain rfl := Option.some.inj h
    exact ⟨r1, r2, r3, r4, r5, r6, r7, ⟨path, r8, rfl⟩, r9, r10, r11, r12, r13⟩
  · rintro ⟨r1, r2, r3, r4, r5, r6, r7, ⟨path, r8, folder⟩, r9, r10, r11, r12, r13⟩
    simp only [fileOfFields?, r1, r2, r3, r4, r5, r6, r7, r8, r9, r10, r11, r12, r13, ← folder,
      Option.bind_eq_bind, Option.bind_some, Option.pure_def]

/-- What named values say is read as a file field by field. -/
theorem readsFile_iff {room : Nat} {named : List (String × Written)} {file : StoredFile} :
    (fileFields.mapM (Json.fieldOf? named)).bind (fileOfFields? room) = some file ↔
      ReadsFile room named file := by
  rw [Option.bind_eq_some_iff]
  constructor
  · rintro ⟨fields, hf, ho⟩
    rw [mapM_eq_some_iff] at hf
    simp only [fileFields, List.forall₂_cons_left_iff, List.forall₂_nil_left_iff] at hf
    obtain ⟨f1, _, h1, ⟨f2, _, h2, ⟨f3, _, h3, ⟨f4, _, h4, ⟨f5, _, h5, ⟨f6, _, h6, ⟨f7, _, h7,
      ⟨f8, _, h8, ⟨f9, _, h9, ⟨f10, _, h10, ⟨f11, _, h11, ⟨f12, _, h12, ⟨f13, _, h13, rfl, rfl⟩,
      rfl⟩, rfl⟩, rfl⟩, rfl⟩, rfl⟩, rfl⟩, rfl⟩, rfl⟩, rfl⟩, rfl⟩, rfl⟩, rfl⟩ := hf
    obtain ⟨r1, r2, r3, r4, r5, r6, r7, ⟨path, r8, folder⟩, r9, r10, r11, r12, r13⟩ :=
      fileOfFields_eq_some_iff.mp ho
    exact ⟨⟨f1, h1, r1⟩, ⟨f2, h2, r2⟩, ⟨f3, h3, r3⟩, ⟨f4, h4, r4⟩, ⟨f5, h5, r5⟩, ⟨f6, h6, r6⟩,
      ⟨f7, h7, r7⟩, ⟨path, ⟨f8, h8, r8⟩, folder⟩, ⟨f9, h9, r9⟩, ⟨f10, h10, r10⟩, ⟨f11, h11, r11⟩,
      ⟨f12, h12, r12⟩, ⟨f13, h13, r13⟩⟩
  · rintro ⟨⟨f1, h1, r1⟩, ⟨f2, h2, r2⟩, ⟨f3, h3, r3⟩, ⟨f4, h4, r4⟩, ⟨f5, h5, r5⟩, ⟨f6, h6, r6⟩,
      ⟨f7, h7, r7⟩, ⟨path, ⟨f8, h8, r8⟩, folder⟩, ⟨f9, h9, r9⟩, ⟨f10, h10, r10⟩, ⟨f11, h11, r11⟩,
      ⟨f12, h12, r12⟩, ⟨f13, h13, r13⟩⟩
    refine ⟨[f1, f2, f3, f4, f5, f6, f7, f8, f9, f10, f11, f12, f13], ?_, ?_⟩
    · rw [mapM_eq_some_iff]
      exact .cons h1 (.cons h2 (.cons h3 (.cons h4 (.cons h5 (.cons h6 (.cons h7 (.cons h8 (.cons h9
        (.cons h10 (.cons h11 (.cons h12 (.cons h13 .nil))))))))))))
    · exact fileOfFields_eq_some_iff.mpr
        ⟨r1, r2, r3, r4, r5, r6, r7, ⟨path, r8, folder⟩, r9, r10, r11, r12, r13⟩

/-- A record is read as a file field by field. -/
theorem fileOfFields_iff {room : Nat} {entries : List (Bytes × Written)}
    {named : List (String × Written)} (hn : Json.namedEntries? entries = some named)
    {file : StoredFile} :
    ((Written.record entries).fields? fileFields).bind (fileOfFields? room) = some file ↔
      ReadsFile room named file := by
  rw [Written.fields?, hn, Option.bind_some, readsFile_iff]

/-- A record that is read as a file is accepted. -/
theorem accepts_of_readsFile {room : Nat} (deep : room ≤ Json.deepest)
    {named : List (String × Written)} {file : StoredFile} (h : ReadsFile room named file) :
    Accepts named := by
  have text := isRead_text room
  have long := isRead_long room
  have short := isRead_short room
  obtain ⟨path, hp, _⟩ := h.folderPath
  simp only [Accepts, fileShapes, List.forall_mem_cons, List.not_mem_nil, false_imp_iff,
    forall_true_iff, and_true]
  exact ⟨fits_of_readsField text h.fileId, fits_of_readsField text h.name,
    fits_of_readsField text h.url, fits_of_readsField text h.thumbnailUrl,
    fits_of_readsField long h.size, fits_of_readsField text h.fileType,
    fits_of_readsField (isRead_texts room) h.tags, fits_of_readsField text hp,
    fits_of_readsField text h.createdAt, fits_of_readsField text h.updatedAt,
    fits_of_readsField short h.width, fits_of_readsField short h.height,
    fits_of_readsField (isRead_facts deep) h.customMetadata⟩

/-- A readable record that is accepted is read as a file. -/
theorem exists_readsFile {room : Nat} (deep : room ≤ Json.deepest)
    {named : List (String × Written)} (readable : ∀ entry ∈ named, entry.2.Readable room)
    (accepts : Accepts named) : ∃ file, ReadsFile room named file := by
  simp only [Accepts, fileShapes, List.forall_mem_cons, List.not_mem_nil, false_imp_iff,
    forall_true_iff, and_true, ← exists_readsField_iff (isRead_text room) readable,
    ← exists_readsField_iff (isRead_long room) readable,
    ← exists_readsField_iff (isRead_short room) readable,
    ← exists_readsField_iff (isRead_texts room) readable,
    ← exists_readsField_iff (isRead_facts deep) readable] at accepts
  obtain ⟨⟨v1, h1⟩, ⟨v2, h2⟩, ⟨v3, h3⟩, ⟨v4, h4⟩, ⟨v5, h5⟩, ⟨v6, h6⟩, ⟨v7, h7⟩, ⟨v8, h8⟩, ⟨v9, h9⟩,
    ⟨v10, h10⟩, ⟨v11, h11⟩, ⟨v12, h12⟩, ⟨v13, h13⟩⟩ := accepts
  exact ⟨⟨v1, v2, v3, v4, v5, v6, v7, folderOf v8, v9, v10, v11, v12, v13⟩, h1, h2, h3, h4, h5,
    h6, h7, ⟨v8, h8, rfl⟩, h9, h10, h11, h12, h13⟩

/-- A legible record that is read as a file describes it. -/
theorem described_of_readsFile {room : Nat} (deep : room ≤ Json.deepest)
    {named : List (String × Written)} (legible : ∀ entry ∈ named, entry.2.Legible)
    {file : StoredFile} (h : ReadsFile room named file) : Described named file := by
  have text := isRead_text room
  have long := isRead_long room
  have short := isRead_short room
  obtain ⟨path, hp, hf⟩ := h.folderPath
  exact ⟨field_of_readsField text legible h.fileId, field_of_readsField text legible h.name,
    field_of_readsField text legible h.url, field_of_readsField text legible h.thumbnailUrl,
    field_of_readsField long legible h.size, field_of_readsField text legible h.fileType,
    field_of_readsField (isRead_texts room) legible h.tags,
    ⟨path, field_of_readsField text legible hp, hf ▸ isFolder_folderOf path⟩,
    field_of_readsField text legible h.createdAt, field_of_readsField text legible h.updatedAt,
    field_of_readsField short legible h.width, field_of_readsField short legible h.height,
    field_of_readsField (isRead_facts deep) legible h.customMetadata⟩

/-- A readable record describes a file exactly when it is accepted, and then the file is the one
that it describes. -/
theorem describes_iff {room : Nat} (deep : room ≤ Json.deepest) {entries : List (Bytes × Written)}
    {named : List (String × Written)} (hn : Named entries named)
    (readable : ∀ entry ∈ named, entry.2.Readable room)
    (legible : ∀ entry ∈ named, entry.2.Legible) :
    ((∃ file, ((Written.record entries).fields? fileFields).bind (fileOfFields? room) = some file) ↔
        Accepts named) ∧
      ∀ file, ((Written.record entries).fields? fileFields).bind (fileOfFields? room) = some file →
        Described named file := by
  simp only [fileOfFields_iff (namedEntries_of_named hn)]
  exact ⟨⟨fun ⟨_, h⟩ => accepts_of_readsFile deep h, exists_readsFile deep readable⟩,
    fun _ => described_of_readsFile deep legible⟩

end MediaGateway.Storage
