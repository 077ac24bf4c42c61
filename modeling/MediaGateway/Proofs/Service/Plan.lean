import MediaGateway.Service

/-!
# What becomes of a request

Whether a request is acceptable, what it asks the storage for, and which
responses are due for the results are said here without the plan, and the plan
agrees. A handler that has a plan ends as the storage ends.
-/

namespace MediaGateway.Service

open Api (Rpc)

variable {σ : Type}

/-- The objection to a request about no file. -/
def fileIdObjection? (fileId : String) : Option Fault :=
  if fileId = "" then some (.invalid "File ID is required") else none

/-- The objection to a request, if there is one. -/
def objection? : (rpc : Rpc) → rpc.Request → Option Fault
  | .getUploadAuth, _ => none
  | .uploadFile, (request : Api.UploadFileRequest) =>
    if request.fileData = [] then some (.invalid "File data is required")
    else if request.filename = "" then some (.invalid "Filename is required")
    else none
  | .getFileDetails, (request : Api.GetFileDetailsRequest) => fileIdObjection? request.fileId
  | .getFiles, _ => none
  | .updateFileDetails, (request : Api.UpdateFileDetailsRequest) => fileIdObjection? request.fileId
  | .deleteFile, (request : Api.DeleteFileRequest) => fileIdObjection? request.fileId
  | .deleteMultipleFiles, (request : Api.DeleteMultipleFilesRequest) =>
    if request.fileIds = [] then some (.invalid "At least one file ID is required") else none

/-- What an acceptable request asks the storage for. -/
def operationOf : (rpc : Rpc) → rpc.Request → Storage.Operation
  | .getUploadAuth, _ => .credential
  | .uploadFile, (request : Api.UploadFileRequest) => .upload request.toUpload
  | .getFileDetails, (request : Api.GetFileDetailsRequest) => .details request.fileId
  | .getFiles, (request : Api.GetFilesRequest) => .list request.toQuery.normalized
  | .updateFileDetails, (request : Api.UpdateFileDetailsRequest) =>
    .update request.fileId request.toUpdate
  | .deleteFile, (request : Api.DeleteFileRequest) => .delete request.fileId
  | .deleteMultipleFiles, (request : Api.DeleteMultipleFilesRequest) => .deleteAll request.fileIds

/-- Whether a response is due for a result: it reports success without a reason. A batch succeeds
when each of its files was deleted, and else says that some were not. -/
def Due : (rpc : Rpc) → (request : rpc.Request) → (operationOf rpc request).Result →
    rpc.Response → Prop
  | .getUploadAuth, _, _, (response : Api.GetUploadAuthResponse) =>
    response.success = true ∧ response.errorMessage = ""
  | .uploadFile, _, _, (response : Api.UploadFileResponse) =>
    response.success = true ∧ response.errorMessage = ""
  | .getFileDetails, _, _, (response : Api.GetFileDetailsResponse) =>
    response.success = true ∧ response.errorMessage = ""
  | .getFiles, _, _, (response : Api.GetFilesResponse) =>
    response.success = true ∧ response.errorMessage = ""
  | .updateFileDetails, _, _, (response : Api.UpdateFileDetailsResponse) =>
    response.success = true ∧ response.errorMessage = ""
  | .deleteFile, _, _, (response : Api.DeleteFileResponse) =>
    response.success = true ∧ response.errorMessage = ""
  | .deleteMultipleFiles, _, (outcomes : List DeleteOutcome),
      (response : Api.DeleteMultipleFilesResponse) =>
    response.allSuccess = outcomes.all (·.success) ∧
      response.errorMessage =
        if outcomes.all (·.success) then "" else "Some files failed to delete"

/-- A request about a file is refused when there is an objection to its identifier. -/
theorem requireFileId_eq (fileId : String) :
    requireFileId fileId = (fileIdObjection? fileId).elim (.ok ()) .error := by
  by_cases h : fileId = ""
  · simp only [requireFileId, fileIdObjection?, h, if_true, Option.elim_some]
  · simp only [requireFileId, fileIdObjection?, h, if_false, Option.elim_none]

/-- The response to an acceptable request, given the result of its operation: the description of a
file, one description for each file of a page in the same order, one result for each file of a
batch. -/
def responseOf (publicKey : String) : (rpc : Rpc) → (request : rpc.Request) →
    (operationOf rpc request).Result → rpc.Response
  | .getUploadAuth, _, credential => credentialResponse publicKey credential
  | .uploadFile, _, file => Api.UploadFileResponse.mk (some (.ofFile file)) true ""
  | .getFileDetails, _, file => Api.GetFileDetailsResponse.mk (some (.ofFile file)) true ""
  | .getFiles, _, page => listingResponse page
  | .updateFileDetails, _, file => Api.UpdateFileDetailsResponse.mk (some (.ofFile file)) true ""
  | .deleteFile, _, _ => Api.DeleteFileResponse.mk true ""
  | .deleteMultipleFiles, _, outcomes => batchResponse outcomes

/-- The response for a result is due for it. -/
theorem due_responseOf (publicKey : String) (rpc : Rpc) (request : rpc.Request)
    (result : (operationOf rpc request).Result) :
    Due rpc request result (responseOf publicKey rpc request result) := by
  cases rpc <;> exact ⟨rfl, rfl⟩

/-- A request is refused with the objection to it, and else planned: the storage is asked for the
operation of the request, and the response is the one for the result. -/
theorem plan_eq (publicKey : String) (rpc : Rpc) (request : rpc.Request) :
    ∃ fields, plan publicKey rpc request = (objection? rpc request).elim
      (.ok ⟨startedEvent rpc fields, operationOf rpc request, responseOf publicKey rpc request⟩)
      .error := by
  cases rpc with
  | getUploadAuth => exact ⟨_, rfl⟩
  | getFiles => exact ⟨_, rfl⟩
  | uploadFile =>
    simp only [objection?, plan, planUpload]
    split
    · exact ⟨[], rfl⟩
    · split
      · exact ⟨[], rfl⟩
      · exact ⟨_, rfl⟩
  | deleteMultipleFiles =>
    simp only [objection?, plan, planDeleteAll]
    split
    · exact ⟨[], rfl⟩
    · exact ⟨_, rfl⟩
  | getFileDetails =>
    simp only [objection?, plan, planDetails, requireFileId_eq]
    cases fileIdObjection? (Api.GetFileDetailsRequest.fileId request) with
    | some fault => exact ⟨[], rfl⟩
    | none => exact ⟨_, rfl⟩
  | updateFileDetails =>
    simp only [objection?, plan, planUpdate, requireFileId_eq]
    cases fileIdObjection? (Api.UpdateFileDetailsRequest.fileId request) with
    | some fault => exact ⟨[], rfl⟩
    | none => exact ⟨_, rfl⟩
  | deleteFile =>
    simp only [objection?, plan, planDelete, requireFileId_eq]
    cases fileIdObjection? (Api.DeleteFileRequest.fileId request) with
    | some fault => exact ⟨[], rfl⟩
    | none => exact ⟨_, rfl⟩

/-- A request is refused with the objection to it, and else planned: the storage is asked for the
operation of the request, and every response of the plan is due. -/
theorem plan_cases (publicKey : String) (rpc : Rpc) (request : rpc.Request) :
    (∃ fault, objection? rpc request = some fault ∧ plan publicKey rpc request = .error fault) ∨
      (objection? rpc request = none ∧ ∃ fields respond,
        plan publicKey rpc request =
            .ok ⟨startedEvent rpc fields, operationOf rpc request, respond⟩ ∧
          ∀ result, Due rpc request result (respond result)) := by
  obtain ⟨fields, hp⟩ := plan_eq publicKey rpc request
  cases ho : objection? rpc request with
  | some fault => exact .inl ⟨fault, rfl, by rw [hp, ho, Option.elim_some]⟩
  | none =>
    exact .inr ⟨rfl, fields, _, by rw [hp, ho, Option.elim_none], due_responseOf publicKey _ _⟩

/-- A request that somebody objects to never reaches the storage. -/
theorem handler_of_objection (publicKey : String) (storage : Storage σ) {rpc : Rpc}
    {request : rpc.Request} {fault : Fault} (h : objection? rpc request = some fault) (state : σ) :
    handler publicKey storage rpc request state =
      (.returned (.error (faultStatus rpc fault)), [.event (failedEvent rpc request fault)],
        state) := by
  rcases plan_cases publicKey rpc request with ⟨other, ho, hp⟩ | ⟨hn, _⟩
  · obtain rfl := Option.some.inj (ho.symm.trans h)
    simp only [handler, hp]
  · exact absurd (hn.symm.trans h) (by simp only [reduceCtorEq, not_false_iff])

/-- What the handler of an acceptable request tells before it looks at the result. -/
def told (rpc : Rpc) (fields : List (String × Event.Value)) (events : List Event) :
    List Chain.Step :=
  .event (startedEvent rpc fields) :: events.map .event

/-- An acceptable request whose operation has a result is answered by the response for it. -/
theorem handler_responds (publicKey : String) (storage : Storage σ) {rpc : Rpc}
    {request : rpc.Request} (h : objection? rpc request = none) (state : σ)
    {result : (operationOf rpc request).Result}
    (hr : (storage (operationOf rpc request) state).outcome = .done result) :
    ∃ fields, handler publicKey storage rpc request state =
      (.returned (.ok (.response (responseOf publicKey rpc request result))),
        told rpc fields (storage (operationOf rpc request) state).events,
        (storage (operationOf rpc request) state).state) := by
  obtain ⟨fields, hp⟩ := plan_eq publicKey rpc request
  rw [h, Option.elim_none] at hp
  refine ⟨fields, ?_⟩
  simp only [handler, hp, hr, told]

/-- An acceptable request whose operation has a result is answered by a response that is due. -/
theorem handler_of_done (publicKey : String) (storage : Storage σ) {rpc : Rpc}
    {request : rpc.Request} (h : objection? rpc request = none) (state : σ)
    {result : (operationOf rpc request).Result}
    (hr : (storage (operationOf rpc request) state).outcome = .done result) :
    ∃ fields response, Due rpc request result response ∧
      handler publicKey storage rpc request state =
        (.returned (.ok (.response response)),
          told rpc fields (storage (operationOf rpc request) state).events,
          (storage (operationOf rpc request) state).state) := by
  obtain ⟨fields, hh⟩ := handler_responds publicKey storage h state hr
  exact ⟨fields, _, due_responseOf publicKey rpc request result, hh⟩

/-- An acceptable request whose operation fails is answered by the status of the failure. -/
theorem handler_of_failed (publicKey : String) (storage : Storage σ) {rpc : Rpc}
    {request : rpc.Request} (h : objection? rpc request = none) (state : σ) {fault : Fault}
    (hr : (storage (operationOf rpc request) state).outcome = .failed fault) :
    ∃ fields, handler publicKey storage rpc request state =
      (.returned (.error (faultStatus rpc fault)),
        told rpc fields (storage (operationOf rpc request) state).events
          ++ [.event (failedEvent rpc request fault)],
        (storage (operationOf rpc request) state).state) := by
  rcases plan_cases publicKey rpc request with ⟨other, ho, _⟩ | ⟨_, fields, respond, hp, hd⟩
  · exact absurd (h.symm.trans ho) (by simp only [reduceCtorEq, not_false_iff])
  · refine ⟨fields, ?_⟩
    simp only [handler, hp, hr, told]

end MediaGateway.Service
