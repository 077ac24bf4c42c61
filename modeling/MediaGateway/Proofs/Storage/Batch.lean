import MediaGateway.Proofs.Json.Compact
import MediaGateway.Proofs.Storage.Inquiry

/-!
# What becomes of a batch

The provider reports which files of a batch it deleted and which were missing.
Each of the two lists may be absent or null. The storage tells for every file that
was asked for, in the order of the request, in which list it is, and no more of
the report matters.
-/

namespace MediaGateway.Storage

open Json (Written)

/-- What a record says under a name: a list of identifiers, once, or else nothing or null, which
stand for the empty list. -/
inductive Says (entries : List (String × Written)) (name : String) : List String → Prop where
  /-- Nothing. -/
  | absent (h : (entries.filter fun entry => entry.1 = name) = []) : Says entries name []
  /-- Null. -/
  | null (h : (entries.filter fun entry => entry.1 = name) = [(name, .null)]) :
    Says entries name []
  /-- A list. -/
  | listed {value : Written} {fileIds : List String}
    (h : (entries.filter fun entry => entry.1 = name) = [(name, value)])
    (texts : value.texts? = some fileIds) : Says entries name fileIds

/-- A body that reports which files were deleted and which were missing: it is a record that says
both. -/
def Reports (body : Bytes) (deleted missing : List String) : Prop :=
  ∃ entries named, Written.read? body = some (.record entries) ∧
    Json.namedEntries? entries = some named ∧
    Says named "successfullyDeletedFileIds" deleted ∧ Says named "missingFileIds" missing

/-- A list that a record gives is read from its field. -/
theorem textsField_of_says {entries : List (String × Written)} {name : String}
    {fileIds : List String} (h : Says entries name fileIds) :
    ∃ field, Json.fieldOf? entries [name] = some field ∧ textsField field = some fileIds := by
  have hf : (entries.filter fun entry => [name].contains entry.1) =
      entries.filter fun entry => entry.1 = name := by
    simp only [List.contains_eq_mem, List.mem_singleton]
  cases h with
  | absent h => exact ⟨none, by rw [Json.fieldOf?, hf, h], rfl⟩
  | null h => exact ⟨none, by rw [Json.fieldOf?, hf, h]; rfl, rfl⟩
  | listed h ht =>
    rename_i value
    have hp : Json.present value = some value := by
      cases value with
      | null => contradiction
      | flag content => rfl
      | numeral content => rfl
      | quoted inside => rfl
      | list items => rfl
      | record entries => rfl
    refine ⟨some value, by rw [Json.fieldOf?, hf, h]; exact congrArg some hp, ?_⟩
    simp only [textsField, Json.optional?, ht, Option.map_some, Option.getD_some]

/-- A report is read as it is given. -/
theorem readBatch_of_reports {body : Bytes} {deleted missing : List String}
    (h : Reports body deleted missing) : readBatch? body = some ⟨deleted, missing⟩ := by
  obtain ⟨entries, named, hr, hn, hd, hm⟩ := h
  obtain ⟨deletedField, hdf, hdt⟩ := textsField_of_says hd
  obtain ⟨missingField, hmf, hmt⟩ := textsField_of_says hm
  have hf : Written.fields? batchFields (.record entries) = some [deletedField, missingField] := by
    rw [Written.fields?, hn]
    simp only [batchFields, Option.bind_some, List.mapM_cons, List.mapM_nil, hdf, hmf, bind, pure]
  rw [readBatch?, hr, Option.bind_some, hf]
  simp only [hdt, hmt, bind, Option.bind, pure]

/-- Only membership in the two lists decides an outcome. -/
theorem outcome_congr {report other : BatchReport}
    (hd : ∀ fileId, fileId ∈ report.deleted ↔ fileId ∈ other.deleted)
    (hm : ∀ fileId, fileId ∈ report.missing ↔ fileId ∈ other.missing) (fileId : String) :
    report.outcome fileId = other.outcome fileId := by
  simp only [BatchReport.outcome, List.contains_eq_mem, hd fileId, hm fileId]

namespace Remote

/-- The address that batches go to. -/
def batchAddress (config : StorageConfig) : String :=
  apiAddress config "files/batch/deleteByFileIds"

/-- The request to delete a batch. -/
def batchRequest (config : StorageConfig) (place : Url) (fileIds : List String) : Http.Request :=
  ⟨.post, place, credential config, .json (batchBody fileIds)⟩

/-- A batch that is answered with a report. -/
structure BatchAnswered (remote : Remote) (place : Url) (fileIds : List String)
    (sent : List Http.Request) (answer : Http.Answer) (deleted missing : List String) : Prop where
  /-- The batch has an address. -/
  address : Url.read (batchAddress remote.config) = .ok place
  /-- A request can go there. -/
  sendable : Http.isSendable place = true
  /-- The request is answered. -/
  answered : remote.provider (sent ++ [batchRequest remote.config place fileIds]) =
    .answered answer
  /-- The answer is one of success. -/
  success : Http.isSuccess answer.status = true
  /-- The answer is complete. -/
  whole : answer.bodyEnd = .complete
  /-- The answer reports what became of the batch. -/
  reports : Reports answer.body deleted missing

/-- A batch that is not too long and is answered has the outcomes of the report. -/
theorem deleteAll_answered {remote : Remote} {place : Url} {fileIds : List String} {state : State}
    {answer : Http.Answer} {deleted missing : List String}
    (fits : fileIds.length ≤ remote.config.maxFilesPerBatchDelete.toNat)
    (h : BatchAnswered remote place fileIds state.sent answer deleted missing) :
    remote.storage (.deleteAll fileIds) state =
      ⟨.done (fileIds.map (BatchReport.outcome ⟨deleted, missing⟩)),
        [(deleteAllInquiry remote.config fileIds).started,
          (deleteAllInquiry remote.config fileIds).finished
            (fileIds.map (BatchReport.outcome ⟨deleted, missing⟩))],
        { state with sent := state.sent ++ [batchRequest remote.config place fileIds] }⟩ := by
  have hm : isTooMany remote.config fileIds = false := by
    rw [isTooMany, decide_eq_false_iff_not]
    omega
  have hr : (deleteAllInquiry remote.config fileIds).request =
      .ready (batchRequest remote.config place fileIds) :=
    textRequest_ready remote.config .post h.address h.sendable (.json (batchBody fileIds))
  have hs : Http.send remote.provider (batchRequest remote.config place fileIds) state.sent =
      ⟨.ok answer, state.sent ++ [batchRequest remote.config place fileIds]⟩ :=
    Http.send_answered h.sendable h.answered (Http.lead_of_success _ h.success)
  have hb : (deleteAllInquiry remote.config fileIds).result answer =
      .ok (fileIds.map (BatchReport.outcome ⟨deleted, missing⟩)) := by
    simp only [deleteAllInquiry, readBody, Http.Answer.wholeBody, h.whole,
      readBatch_of_reports h.reports, bind, Except.bind, Except.map]
  simp only [storage, hm, Bool.false_eq_true, if_false]
  exact ask_answered remote hr state hs rfl h.success hb

/-- The body of a batch reads back as the identifiers that were asked for. -/
theorem read_batchBody (fileIds : List String) :
    Json.Value.read? (Bytes.ofText (batchBody fileIds)) =
      some (.record [("fileIds", .list (fileIds.map .text))]) := by
  refine Json.read_compact ⟨List.pairwise_singleton _ _, ?_⟩
  intro entry he
  obtain rfl := List.mem_singleton.mp he
  exact Json.whole_texts _ fileIds

end Remote

end MediaGateway.Storage
