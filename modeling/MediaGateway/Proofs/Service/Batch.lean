import MediaGateway.Proofs.Storage.Batch
import MediaGateway.Service

/-!
# How a batch is answered

The response to a batch has one result for each identifier, in the order of the
request, and only membership in the two lists of the provider decides what it
says. The batch succeeds when every identifier was deleted.
-/

namespace MediaGateway.Service

open Api (DeleteResult DeleteMultipleFilesResponse)
open Storage (Remote)
open Storage.Remote (BatchAnswered batchBody batchRequest)

/-- The result for one file, given which files were deleted and which were missing. -/
def resultOf (deleted missing : List String) (fileId : String) : DeleteResult :=
  if fileId ∈ deleted then ⟨fileId, true, ""⟩
  else if fileId ∈ missing then ⟨fileId, false, "File not found"⟩
  else ⟨fileId, false, "Unknown error"⟩

/-- An outcome is told as the result for its file. -/
theorem ofOutcome_outcome (deleted missing : List String) (fileId : String) :
    DeleteResult.ofOutcome (Storage.BatchReport.outcome ⟨deleted, missing⟩ fileId) =
      resultOf deleted missing fileId := by
  simp only [Storage.BatchReport.outcome, resultOf, List.contains_eq_mem, decide_eq_true_eq]
  split
  · rfl
  · split <;> rfl

/-- An outcome is a success when its file was deleted. -/
theorem outcome_success (deleted missing : List String) (fileId : String) :
    (Storage.BatchReport.outcome ⟨deleted, missing⟩ fileId).success = true ↔
      fileId ∈ deleted := by
  simp only [Storage.BatchReport.outcome, List.contains_eq_mem, decide_eq_true_eq]
  split
  next h => exact iff_of_true rfl h
  next h =>
    refine iff_of_false ?_ h
    split <;> exact Bool.false_ne_true

/-- How a batch ends, given its outcomes: with the response that tells them, and with one request
sent. -/
def batchEnded (config : StorageConfig) (place : Url) (fileIds : List String)
    (state : Remote.State) (outcomes : List DeleteOutcome) :
    Chain.Outcome DeleteMultipleFilesResponse × List Chain.Step × Remote.State :=
  (.returned (.ok (.response (batchResponse outcomes))),
    .event (startedEvent .deleteMultipleFiles [("file_count", .integer fileIds.length)]) ::
      [(Remote.deleteAllInquiry config fileIds).started,
        (Remote.deleteAllInquiry config fileIds).finished outcomes].map .event,
    { state with sent := state.sent ++ [batchRequest config place fileIds] })

/-- A batch that is acceptable and answered ends with the outcomes of the report. -/
theorem handler_batch (publicKey : String) {remote : Remote} {place : Url}
    {fileIds : List String} {state : Remote.State} {answer : Http.Answer}
    {deleted missing : List String} (hn : fileIds ≠ [])
    (fits : fileIds.length ≤ remote.config.maxFilesPerBatchDelete.toNat)
    (h : BatchAnswered remote place fileIds state.sent answer deleted missing) :
    handler publicKey remote.storage .deleteMultipleFiles ⟨fileIds⟩ state =
      batchEnded remote.config place fileIds state
        (fileIds.map (Storage.BatchReport.outcome ⟨deleted, missing⟩)) := by
  have hp : plan publicKey .deleteMultipleFiles ⟨fileIds⟩ =
      .ok ⟨startedEvent .deleteMultipleFiles [("file_count", .integer fileIds.length)],
        .deleteAll fileIds, batchResponse⟩ := by
    simp only [plan, planDeleteAll, if_neg hn]
  simp only [handler, hp, Remote.deleteAll_answered fits h, batchEnded]

/-- For every batch of an acceptable size that the provider answers with a report there is one
result for each identifier, in the order of the request. It tells whether the file was deleted,
and else whether it was missing. The batch succeeds when every file was deleted. One request is
sent, whose body reads back as the identifiers, and another report of the same files, in any order
and however often, makes no difference. -/
theorem batch_follows_report (publicKey : String) {remote : Remote} {place : Url}
    {fileIds : List String} {state : Remote.State} {answer : Http.Answer}
    {deleted missing : List String} (hn : fileIds ≠ [])
    (fits : fileIds.length ≤ remote.config.maxFilesPerBatchDelete.toNat)
    (h : BatchAnswered remote place fileIds state.sent answer deleted missing) :
    (∃ response : DeleteMultipleFilesResponse, ∃ told,
      handler publicKey remote.storage .deleteMultipleFiles ⟨fileIds⟩ state =
          (.returned (.ok (.response response)), told,
            { state with sent := state.sent ++ [batchRequest remote.config place fileIds] }) ∧
        response.results = fileIds.map (resultOf deleted missing) ∧
        (response.allSuccess = true ↔ ∀ fileId ∈ fileIds, fileId ∈ deleted) ∧
        response.errorMessage =
          if response.allSuccess = true then "" else "Some files failed to delete") ∧
      Json.Value.read? (Bytes.ofText (batchBody fileIds)) =
        some (.record [("fileIds", .list (fileIds.map .text))]) ∧
      ∀ (again : Remote) other deletedAgain missingAgain, again.config = remote.config →
        BatchAnswered again place fileIds state.sent other deletedAgain missingAgain →
        (∀ fileId, fileId ∈ deletedAgain ↔ fileId ∈ deleted) →
        (∀ fileId, fileId ∈ missingAgain ↔ fileId ∈ missing) →
        handler publicKey again.storage .deleteMultipleFiles ⟨fileIds⟩ state =
          handler publicKey remote.storage .deleteMultipleFiles ⟨fileIds⟩ state := by
  refine ⟨?_, Remote.read_batchBody fileIds, ?_⟩
  · refine ⟨batchResponse (fileIds.map (Storage.BatchReport.outcome ⟨deleted, missing⟩)), _,
      handler_batch publicKey hn fits h, ?_, ?_, rfl⟩
    · simp only [batchResponse, List.map_map]
      refine List.map_congr_left fun fileId _ => ?_
      exact ofOutcome_outcome deleted missing fileId
    · simp only [batchResponse, List.all_map, List.all_eq_true]
      refine forall_congr' fun fileId => forall_congr' fun _ => ?_
      exact outcome_success deleted missing fileId
  · intro again other deletedAgain missingAgain hc ha hd hm
    have ho : Storage.BatchReport.outcome ⟨deletedAgain, missingAgain⟩ =
        Storage.BatchReport.outcome ⟨deleted, missing⟩ :=
      funext (Storage.outcome_congr hd hm)
    rw [handler_batch publicKey hn (by rw [hc]; exact fits) ha, handler_batch publicKey hn fits h,
      ho, hc]

/-- A report that names a file nobody asked for, and has its lists the other way round. -/
def strayReport : String :=
  "\x7b\"missingFileIds\":[\"a\"],\"successfullyDeletedFileIds\":[\"x\",\"b\"]\x7d"

/-- A storage whose provider answers everything with that report. -/
def strayRemote : Remote where
  config := ⟨"private", "http://[::1]", "http://[::1]", 60, 100, 100⟩
  now := 0
  provider := fun _ => .answered ⟨200, [], Bytes.ofText strayReport, .complete⟩

/-- The address that its batches go to. -/
def strayPlace : Url :=
  ⟨"http", some ⟨"[::1]", none⟩, .segments ["v1", "files", "batch", "deleteByFileIds"], none, none⟩

/-- The state before anything is sent. -/
def unsentState : Remote.State := ⟨[], []⟩

/-- What the report says. -/
theorem strayReport_reports :
    Storage.Reports (Bytes.ofText strayReport) ["x", "b"] ["a"] := by
  have hq : ∀ text : String, Json.unquoted? (Json.insideOctets text.toList) = some text :=
    Json.unquoted_inside
  have hd : (Json.Written.list [.quoted (Json.insideOctets "x".toList),
      .quoted (Json.insideOctets "b".toList)]).texts? = some ["x", "b"] := by
    simp only [Json.Written.texts?, List.mapM_cons, List.mapM_nil, Json.Written.text?, hq]
    rfl
  have hm : (Json.Written.list [.quoted (Json.insideOctets "a".toList)]).texts? = some ["a"] := by
    simp only [Json.Written.texts?, List.mapM_cons, List.mapM_nil, Json.Written.text?, hq]
    rfl
  refine ⟨[(Json.insideOctets "missingFileIds".toList,
      .list [.quoted (Json.insideOctets "a".toList)]),
    (Json.insideOctets "successfullyDeletedFileIds".toList,
      .list [.quoted (Json.insideOctets "x".toList), .quoted (Json.insideOctets "b".toList)])],
    [("missingFileIds", .list [.quoted (Json.insideOctets "a".toList)]),
      ("successfullyDeletedFileIds",
        .list [.quoted (Json.insideOctets "x".toList), .quoted (Json.insideOctets "b".toList)])],
    rfl, ?_, .listed rfl hd, .listed rfl hm⟩
  simp only [Json.namedEntries?, List.mapM_cons, List.mapM_nil, hq]
  rfl

/-- A batch with a repeated identifier is answered in the order of its identifiers. -/
theorem batch_follows_stray_report :
    BatchAnswered strayRemote strayPlace ["a", "b", "a", "c"] unsentState.sent ⟨200, [],
        Bytes.ofText strayReport, .complete⟩ ["x", "b"] ["a"] ∧
      ∃ response : DeleteMultipleFilesResponse, ∃ told state,
        handler "public" strayRemote.storage .deleteMultipleFiles ⟨["a", "b", "a", "c"]⟩
            unsentState = (.returned (.ok (.response response)), told, state) ∧
          response.results = [⟨"a", false, "File not found"⟩, ⟨"b", true, ""⟩,
            ⟨"a", false, "File not found"⟩, ⟨"c", false, "Unknown error"⟩] := by
  have ha : BatchAnswered strayRemote strayPlace ["a", "b", "a", "c"] unsentState.sent ⟨200, [],
      Bytes.ofText strayReport, .complete⟩ ["x", "b"] ["a"] :=
    ⟨rfl, by decide, rfl, by decide, rfl, strayReport_reports⟩
  have hf : ["a", "b", "a", "c"].length ≤ strayRemote.config.maxFilesPerBatchDelete.toNat := by
    decide
  obtain ⟨⟨response, told, he, hr, _⟩, _⟩ :=
    batch_follows_report "public" (List.cons_ne_nil "a" ["b", "a", "c"]) hf ha
  exact ⟨ha, response, told, _, he, hr⟩

end MediaGateway.Service
