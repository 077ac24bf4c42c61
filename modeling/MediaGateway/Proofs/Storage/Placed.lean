import MediaGateway.Proofs.Storage.Answered

/-!
# Lists in place of records

Where a record is due, the list of its values in the order of the fields is read as
well, and it may end early. So an answer of another shape than the one that is
documented comes to a result exactly when such lists take the place of records in it;
an empty list stands for a record that says nothing.
-/

namespace MediaGateway.Storage

open Json (Written)

/-- Values in the order of fields, which may end early: each is null or one that its field may
have. -/
inductive Placed : List (Written → Prop) → List Written → Prop where
  /-- The other fields are left out. -/
  | done {kinds : List (Written → Prop)} : Placed kinds []
  /-- The value of one field, and those of the others. -/
  | next {Admits : Written → Prop} {kinds : List (Written → Prop)} {item : Written}
    {items : List Written} (fits : item = .null ∨ Admits item) (more : Placed kinds items) :
    Placed (Admits :: kinds) (item :: items)

/-- What is written for fields are values that the fields may have. -/
def Suits (fields : List (Option Written)) (kinds : List (Written → Prop)) : Prop :=
  List.Forall₂ (fun field Admits => ∀ written, field = some written → Admits written) fields kinds

/-- The values that the fields of a described file may have. -/
def fileValues : List (Written → Prop) := fileShapes.map Prod.snd

/-- The values that the fields of a batch report may have. -/
def batchValues : List (Written → Prop) := [IsTexts, IsTexts]

/-- Fields that are left out suit. -/
theorem suits_absent (kinds : List (Written → Prop)) :
    Suits (List.replicate kinds.length none) kinds := by
  induction kinds with
  | nil => exact .nil
  | cons Admits kinds ih => exact .cons (fun _ h => by cases h) ih

/-- Values in order are no more than there are fields. -/
theorem Placed.length_le {kinds : List (Written → Prop)} {items : List Written}
    (h : Placed kinds items) : items.length ≤ kinds.length := by
  induction h with
  | done => exact Nat.zero_le _
  | next fits more ih => exact Nat.succ_le_succ ih

/-- The fields of a list suit when its values stand in order. -/
theorem suits_iff_placed {kinds : List (Written → Prop)} {items : List Written}
    (h : items.length ≤ kinds.length) :
    Suits (items.map Json.present ++ List.replicate (kinds.length - items.length) none) kinds ↔
      Placed kinds items := by
  induction items generalizing kinds with
  | nil => exact iff_of_true (suits_absent kinds) .done
  | cons item items ih =>
    cases kinds with
    | nil => exact absurd h (Nat.not_succ_le_zero _)
    | cons Admits kinds =>
      have hi := ih (Nat.le_of_succ_le_succ h)
      have hp : (∀ written, Json.present item = some written → Admits written) ↔
          item = .null ∨ Admits item := by
        rcases present_cases item with ⟨hz, hn⟩ | ⟨hz, hs⟩
        · exact iff_of_true (fun written hw => by cases hn.symm.trans hw) (.inl hz)
        · simp only [hs, Option.some.injEq, forall_eq', hz, false_or]
      rw [Suits, List.map_cons, List.cons_append, List.length_cons, List.length_cons,
        Nat.succ_sub_succ, List.forall₂_cons, hp]
      constructor
      · rintro ⟨fits, more⟩
        exact .next fits (hi.mp more)
      · rintro (_ | ⟨fits, more⟩)
        exact ⟨fits, hi.mpr more⟩

/-- A list has the fields of a record when it has no more values than there are fields. -/
theorem fields_list_iff {names : List (List String)} {items : List Written}
    {fields : List (Option Written)} :
    (Written.list items).fields? names = some fields ↔ items.length ≤ names.length ∧
      fields = items.map Json.present ++ List.replicate (names.length - items.length) none := by
  rw [Written.fields?]
  split
  next long =>
    refine iff_of_false (by simp only [reduceCtorEq, not_false_iff]) ?_
    rintro ⟨short, _⟩
    exact Nat.not_le_of_lt long short
  next short => rw [Option.some.injEq, eq_comm, and_iff_right (Nat.le_of_not_lt short)]

section Fields

variable {α : Type} {room : Nat} {Admits : Written → Prop} {Means : Written → α → Prop} {blank : α}
  {read : Option Written → Option α} {field : Option Written}

/-- What is read of a field suits it. -/
theorem IsRead.suits (reader : IsRead room Admits Means blank read) {value : α}
    (h : read field = some value) (written : Written) (hf : field = some written) :
    Admits written := by
  rw [hf] at h
  exact reader.admits written value h

/-- What suits a field is read. -/
theorem IsRead.exists_read (reader : IsRead room Admits Means blank read)
    (suits : ∀ written, field = some written → Admits written)
    (readable : ∀ written, field = some written → written.Readable room) :
    ∃ value, read field = some value := by
  cases field with
  | none => exact ⟨blank, reader.absent⟩
  | some written =>
    exact reader.reads written (readable written rfl) (suits written rfl)

end Fields

/-- The fields of a file that is read suit. -/
theorem suits_of_file {room : Nat} (deep : room ≤ Json.deepest) {fields : List (Option Written)}
    {file : StoredFile} (h : fileOfFields? room fields = some file) : Suits fields fileValues := by
  have text := isRead_text room
  have long := isRead_long room
  have short := isRead_short room
  have listed : ∃ f1 f2 f3 f4 f5 f6 f7 f8 f9 f10 f11 f12 f13,
      fields = [f1, f2, f3, f4, f5, f6, f7, f8, f9, f10, f11, f12, f13] := by
    rw [fileOfFields?.eq_def] at h
    split at h
    · exact ⟨_, _, _, _, _, _, _, _, _, _, _, _, _, rfl⟩
    · cases h
  obtain ⟨f1, f2, f3, f4, f5, f6, f7, f8, f9, f10, f11, f12, f13, rfl⟩ := listed
  obtain ⟨r1, r2, r3, r4, r5, r6, r7, ⟨path, r8, _⟩, r9, r10, r11, r12, r13⟩ :=
    fileOfFields_eq_some_iff.mp h
  exact .cons (text.suits r1) (.cons (text.suits r2) (.cons (text.suits r3)
    (.cons (text.suits r4) (.cons (long.suits r5) (.cons (text.suits r6)
    (.cons ((isRead_texts room).suits r7) (.cons (text.suits r8) (.cons (text.suits r9)
    (.cons (text.suits r10) (.cons (short.suits r11) (.cons (short.suits r12)
    (.cons ((isRead_facts deep).suits r13) .nil))))))))))))

/-- Fields that suit are read as a file. -/
theorem exists_file_of_suits {room : Nat} (deep : room ≤ Json.deepest)
    {fields : List (Option Written)} (suits : Suits fields fileValues)
    (readable : ∀ field ∈ fields, ∀ written, field = some written → written.Readable room) :
    ∃ file, fileOfFields? room fields = some file := by
  have text := isRead_text room
  have long := isRead_long room
  have short := isRead_short room
  simp only [Suits, fileValues, fileShapes, List.map_cons, List.map_nil,
    List.forall₂_cons_right_iff, List.forall₂_nil_right_iff] at suits
  obtain ⟨f1, _, s1, ⟨f2, _, s2, ⟨f3, _, s3, ⟨f4, _, s4, ⟨f5, _, s5, ⟨f6, _, s6, ⟨f7, _, s7,
    ⟨f8, _, s8, ⟨f9, _, s9, ⟨f10, _, s10, ⟨f11, _, s11, ⟨f12, _, s12, ⟨f13, _, s13, rfl, rfl⟩,
    rfl⟩, rfl⟩, rfl⟩, rfl⟩, rfl⟩, rfl⟩, rfl⟩, rfl⟩, rfl⟩, rfl⟩, rfl⟩, rfl⟩ := suits
  simp only [List.forall_mem_cons, List.not_mem_nil, false_imp_iff, forall_true_iff, and_true]
    at readable
  obtain ⟨w1, w2, w3, w4, w5, w6, w7, w8, w9, w10, w11, w12, w13⟩ := readable
  obtain ⟨v1, r1⟩ := text.exists_read s1 w1
  obtain ⟨v2, r2⟩ := text.exists_read s2 w2
  obtain ⟨v3, r3⟩ := text.exists_read s3 w3
  obtain ⟨v4, r4⟩ := text.exists_read s4 w4
  obtain ⟨v5, r5⟩ := long.exists_read s5 w5
  obtain ⟨v6, r6⟩ := text.exists_read s6 w6
  obtain ⟨v7, r7⟩ := (isRead_texts room).exists_read s7 w7
  obtain ⟨v8, r8⟩ := text.exists_read s8 w8
  obtain ⟨v9, r9⟩ := text.exists_read s9 w9
  obtain ⟨v10, r10⟩ := text.exists_read s10 w10
  obtain ⟨v11, r11⟩ := short.exists_read s11 w11
  obtain ⟨v12, r12⟩ := short.exists_read s12 w12
  obtain ⟨v13, r13⟩ := (isRead_facts deep).exists_read s13 w13
  exact ⟨⟨v1, v2, v3, v4, v5, v6, v7, folderOf v8, v9, v10, v11, v12, v13⟩,
    fileOfFields_eq_some_iff.mpr
      ⟨r1, r2, r3, r4, r5, r6, r7, ⟨v8, r8, rfl⟩, r9, r10, r11, r12, r13⟩⟩

/-- The values of a list that is read as a file stand in order. -/
theorem placed_of_described {depth : Nat} {items : List Written} {file : StoredFile}
    (h : describedFile? depth (.list items) = some file) : Placed fileValues items := by
  obtain ⟨fields, hf, hr⟩ := Option.bind_eq_some_iff.mp h
  obtain ⟨hl, rfl⟩ := fields_list_iff.mp hf
  refine (suits_iff_placed hl).mp (suits_of_file ?_ hr)
  exact Nat.le_trans (Nat.sub_le _ _) (Nat.sub_le _ _)

/-- What stands in the fields of a list is one of its values. -/
theorem mem_of_mem_fields {items : List Written} {count : Nat} {written : Written}
    (h : some written ∈ items.map Json.present ++ List.replicate count none) : written ∈ items := by
  rcases List.mem_append.mp h with member | absent
  · obtain ⟨item, hi, he⟩ := List.mem_map.mp member
    rcases present_cases item with ⟨_, hn⟩ | ⟨_, hs⟩
    · cases hn.symm.trans he
    · obtain rfl := Option.some.inj (hs.symm.trans he)
      exact hi
  · cases List.eq_of_mem_replicate absent

/-- Readable values that stand in order are read as a file. -/
theorem exists_described_of_placed {depth : Nat} {items : List Written}
    (placed : Placed fileValues items)
    (readable : ∀ item ∈ items, item.Readable (Json.deepest - depth - 1)) :
    ∃ file, describedFile? depth (.list items) = some file := by
  have deep : Json.deepest - depth - 1 ≤ Json.deepest :=
    Nat.le_trans (Nat.sub_le _ _) (Nat.sub_le _ _)
  have hl : items.length ≤ fileFields.length := placed.length_le
  obtain ⟨file, hr⟩ := exists_file_of_suits deep ((suits_iff_placed placed.length_le).mpr placed)
    fun field member written he => readable written (mem_of_mem_fields (he ▸ member))
  exact ⟨file, Option.bind_eq_some_iff.mpr ⟨_, fields_list_iff.mpr ⟨hl, rfl⟩, hr⟩⟩

/-- A batch report is read from two lists of texts, or from less. -/
theorem readBatch_eq_some_iff {body : Bytes} {report : BatchReport} :
    readBatch? body = some report ↔ ∃ written deleted missing,
      Json.Written.read? body = some written ∧
        written.fields? batchFields = some [deleted, missing] ∧
        textsField deleted = some report.deleted ∧ textsField missing = some report.missing := by
  rw [readBatch?.eq_def]
  constructor
  · intro h
    split at h
    next deleted missing he =>
      obtain ⟨written, hw, hf⟩ := Option.bind_eq_some_iff.mp he
      simp only [Option.bind_eq_bind, Option.bind_eq_some_iff] at h
      obtain ⟨first, hd, second, hm, hr⟩ := h
      obtain rfl := Option.some.inj hr
      exact ⟨written, deleted, missing, hw, hf, hd, hm⟩
    · cases h
  · rintro ⟨written, deleted, missing, hw, hf, hd, hm⟩
    simp only [hw, Option.bind_some, hf, hd, hm, Option.bind_eq_bind]
    rfl

/-- The values of a list that is read as a batch report stand in order. -/
theorem placed_of_batch {body : Bytes} {items : List Written} {report : BatchReport}
    (hb : readBatch? body = some report) (hr : Written.read? body = some (.list items)) :
    Placed batchValues items := by
  obtain ⟨written, deleted, missing, hw, hf, hd, hm⟩ := readBatch_eq_some_iff.mp hb
  obtain rfl := Option.some.inj (hr.symm.trans hw)
  obtain ⟨hl, he⟩ := fields_list_iff.mp hf
  have suits : Suits [deleted, missing] batchValues :=
    .cons ((isRead_texts 0).suits hd) (.cons ((isRead_texts 0).suits hm) .nil)
  rw [he] at suits
  exact (suits_iff_placed hl).mp suits

/-- Readable values that stand in order are read as a batch report. -/
theorem exists_batch_of_placed {body : Bytes} {items : List Written} {room : Nat}
    (hr : Written.read? body = some (.list items)) (placed : Placed batchValues items)
    (readable : ∀ item ∈ items, item.Readable room) : ∃ report, readBatch? body = some report := by
  have hl : items.length ≤ batchFields.length := placed.length_le
  have suits := (suits_iff_placed placed.length_le).mpr placed
  have hf : (Written.list items).fields? batchFields = some (items.map Json.present ++
      List.replicate (batchValues.length - items.length) none) := fields_list_iff.mpr ⟨hl, rfl⟩
  have within : ∀ field ∈ items.map Json.present ++
      List.replicate (batchValues.length - items.length) none,
      ∀ written, field = some written → written.Readable room :=
    fun field member written he => readable written (mem_of_mem_fields (he ▸ member))
  generalize items.map Json.present ++ List.replicate (batchValues.length - items.length) none =
    fields at suits hf within
  simp only [Suits, batchValues, List.forall₂_cons_right_iff, List.forall₂_nil_right_iff] at suits
  obtain ⟨deleted, _, sd, ⟨missing, _, sm, rfl, rfl⟩, rfl⟩ := suits
  obtain ⟨first, hd⟩ := (isRead_texts room).exists_read sd (within _ List.mem_cons_self)
  obtain ⟨second, hm⟩ := (isRead_texts room).exists_read sm
    (within _ (List.mem_cons_of_mem _ List.mem_cons_self))
  exact ⟨⟨first, second⟩, readBatch_eq_some_iff.mpr ⟨_, _, _, hr, hf, hd, hm⟩⟩

/-! ## Bodies -/

/-- A record that is accepted as the description of a file. -/
def IsDescription (written : Written) : Prop :=
  ∃ entries, written = .record entries ∧ ∀ named, Named entries named → Accepts named

/-- A list that stands in for a record with fields of the given kinds. -/
def StandsIn (kinds : List (Written → Prop)) (written : Written) : Prop :=
  ∃ items, written = .list items ∧ Placed kinds items

namespace Operation

/-- An operation whose answer is read. -/
def Reads : Operation → Prop
  | .credential => False
  | .delete _ => False
  | _ => True

/-- A body of the shape that is documented for an operation: a list of records for a page, and a
record for anything else. -/
def Documented : Operation → Bytes → Prop
  | .list _, body => ∃ items, (Written.list items).SpelledBy body ∧ ∀ item ∈ items, IsRecord item
  | _, body => ∃ entries, (Written.record entries).SpelledBy body

/-- A body in which a list stands in for the record that is due, and for a page maybe several. -/
def StoodIn : Operation → Bytes → Prop
  | .list _, body => ∃ items, (Written.list items).SpelledBy body ∧
      ∀ item ∈ items, IsDescription item ∨ StandsIn fileValues item
  | .deleteAll _, body => ∃ written : Written, written.SpelledBy body ∧ StandsIn batchValues written
  | _, body => ∃ written : Written, written.SpelledBy body ∧ StandsIn fileValues written

end Operation

/-- What is read as a file is an accepted record or stands in for one. -/
theorem described_cases {depth : Nat} {written : Written} {file : StoredFile}
    (h : describedFile? depth written = some file) :
    IsDescription written ∨ StandsIn fileValues written := by
  cases written with
  | record entries =>
    refine .inl ⟨entries, rfl, fun named hn => ?_⟩
    refine accepts_of_readsFile ?_ ((fileOfFields_iff (namedEntries_of_named hn)).mp h)
    exact Nat.le_trans (Nat.sub_le _ _) (Nat.sub_le _ _)
  | list items => exact .inr ⟨items, rfl, placed_of_described h⟩
  | _ => cases h

/-- What is readable, and an accepted record or stands in for one, is read as a file. -/
theorem exists_described {depth room : Nat} (hr : Json.deepest - depth - 1 = room)
    {written : Written} (h : IsDescription written ∨ StandsIn fileValues written)
    (readable : written.Readable (room + 1)) : ∃ file, describedFile? depth written = some file := by
  subst hr
  rcases h with ⟨entries, rfl, accepts⟩ | ⟨items, rfl, placed⟩
  · obtain ⟨named, hn, within⟩ := exists_named readable
    obtain ⟨file, hf⟩ := exists_readsFile (Nat.le_trans (Nat.sub_le _ _) (Nat.sub_le _ _)) within
      (accepts named hn)
    exact ⟨file, (fileOfFields_iff (namedEntries_of_named hn)).mpr hf⟩
  · exact exists_described_of_placed placed readable

/-- The files of a page are read from the items of a list. -/
theorem readFiles_eq_some_iff {body : Bytes} {files : List StoredFile} :
    readFiles? body = some files ↔ ∃ items, (Written.list items).SpelledBy body ∧
      List.Forall₂ (fun item file => describedFile? 1 item = some file) items files := by
  simp only [← Json.read_eq_some_iff, ← mapM_eq_some_iff]
  rw [readFiles?.eq_def]
  constructor
  · intro h
    split at h
    next items he => exact ⟨items, he, h⟩
    · cases h
  · rintro ⟨items, hr, hm⟩
    rw [hr]
    exact hm

/-- A body that is read as a file is a record, or a list stands in for one. -/
theorem shaped_of_file {body : Bytes} {file : StoredFile} (h : readFile? body = some file) :
    (∃ entries, (Written.record entries).SpelledBy body) ∨
      ∃ written : Written, written.SpelledBy body ∧ StandsIn fileValues written := by
  obtain ⟨written, hr, hd⟩ := Option.bind_eq_some_iff.mp h
  have spelled := Json.read_eq_some_iff.mp hr
  rcases described_cases hd with ⟨entries, rfl, _⟩ | stands
  · exact .inl ⟨entries, spelled⟩
  · exact .inr ⟨written, spelled, stands⟩

/-- A body that is read as a batch report is a record, or a list stands in for one. -/
theorem shaped_of_batch {body : Bytes} {report : BatchReport} (h : readBatch? body = some report) :
    (∃ entries, (Written.record entries).SpelledBy body) ∨
      ∃ written : Written, written.SpelledBy body ∧ StandsIn batchValues written := by
  obtain ⟨written, _, _, hr, hf, _⟩ := readBatch_eq_some_iff.mp h
  have spelled := Json.read_eq_some_iff.mp hr
  cases written with
  | record entries => exact .inl ⟨entries, spelled⟩
  | list items => exact .inr ⟨_, spelled, items, rfl, placed_of_batch h hr⟩
  | _ => cases hf

/-- An answer that holds a result has a body of the documented shape, or lists stand in for records
in it. -/
theorem shaped_of_holds {operation : Operation} (reads : operation.Reads) {answer : Http.Answer}
    {result : operation.Result} (h : operation.Holds answer result) :
    operation.Documented answer.body ∨ operation.StoodIn answer.body := by
  cases operation with
  | credential => exact reads.elim
  | delete fileId => exact reads.elim
  | upload content => exact shaped_of_file h.2
  | details fileId => exact shaped_of_file h.2
  | update fileId changes => exact shaped_of_file h.2
  | deleteAll fileIds =>
    obtain ⟨report, carries, _⟩ := h
    exact shaped_of_batch carries.2
  | list query =>
    obtain ⟨files, carries, _⟩ := h
    obtain ⟨items, spelled, related⟩ := readFiles_eq_some_iff.mp carries.2
    refine .inr ⟨items, spelled, fun item member => ?_⟩
    obtain ⟨file, _, hd⟩ := exists_of_mem_forall₂ related.flip member
    exact described_cases hd

/-- A readable body that stands in for a record is read as a file. -/
theorem exists_file_of_standsIn {body : Bytes} {written : Written}
    (spelled : written.SpelledBy body) (stands : StandsIn fileValues written)
    (readable : written.Readable Json.deepest) : ∃ file, readFile? body = some file := by
  have room : Json.deepest - 0 - 1 = 126 := rfl
  obtain ⟨file, hd⟩ := exists_described room (.inr stands) readable
  exact ⟨file, Option.bind_eq_some_iff.mpr ⟨written, Json.read_eq_some_iff.mpr spelled, hd⟩⟩

/-- A whole answer holds a result when lists stand in for records in its body and the body is
readable. -/
theorem exists_holds_of_stoodIn {operation : Operation} (reads : operation.Reads)
    {answer : Http.Answer} (whole : answer.bodyEnd = .complete)
    (stood : operation.StoodIn answer.body)
    (readable : ∀ written : Written, written.SpelledBy answer.body →
      written.Readable Json.deepest) : ∃ result, operation.Holds answer result := by
  cases operation with
  | credential => exact reads.elim
  | delete fileId => exact reads.elim
  | upload content =>
    obtain ⟨written, spelled, stands⟩ := stood
    obtain ⟨file, hf⟩ := exists_file_of_standsIn spelled stands (readable written spelled)
    exact ⟨file, whole, hf⟩
  | details fileId =>
    obtain ⟨written, spelled, stands⟩ := stood
    obtain ⟨file, hf⟩ := exists_file_of_standsIn spelled stands (readable written spelled)
    exact ⟨file, whole, hf⟩
  | update fileId changes =>
    obtain ⟨written, spelled, stands⟩ := stood
    obtain ⟨file, hf⟩ := exists_file_of_standsIn spelled stands (readable written spelled)
    exact ⟨file, whole, hf⟩
  | deleteAll fileIds =>
    obtain ⟨_, spelled, items, rfl, placed⟩ := stood
    obtain ⟨report, hb⟩ := exists_batch_of_placed (Json.read_eq_some_iff.mpr spelled) placed
      (readable _ spelled)
    exact ⟨_, report, ⟨whole, hb⟩, rfl⟩
  | list query =>
    obtain ⟨items, spelled, stands⟩ := stood
    have room : Json.deepest - 1 - 1 = 125 := rfl
    have hi : ∀ item ∈ items, ∃ file, describedFile? 1 item = some file := fun item member =>
      exists_described room (stands item member) (readable _ spelled item member)
    obtain ⟨files, _, related⟩ := exists_mapM_forall₂
      fun item member => (hi item member).imp fun file hf => ⟨hf, hf⟩
    exact ⟨_, files, ⟨whole, readFiles_eq_some_iff.mpr ⟨items, spelled, related⟩⟩, rfl⟩

end MediaGateway.Storage
