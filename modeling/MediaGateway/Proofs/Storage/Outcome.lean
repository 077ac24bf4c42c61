import Mathlib.Data.List.TakeWhile
import MediaGateway.Proofs.Storage.Operation

/-!
# What an answer comes to

An operation is refused before anything is sent, or it asks the provider and meets
an answer or a problem. What it meets decides how it ends: a status that promises a
result leads to the result that the answer holds, the status 404 to a missing file
where the operation is about one file, and everything else to a failure of the
provider.
-/

namespace MediaGateway

/-- Nothing is left of a text exactly when it is blank throughout. -/
theorem Text.trim_eq_empty_iff (text : String) :
    Text.trim text = "" ↔ Text.isAllBlank text = true := by
  have hs := List.takeWhile_append_dropWhile (p := isBlank) (l := text.toList)
  have hf : (∀ char ∈ text.toList.dropWhile isBlank, isBlank char = true) ↔
      ∀ char ∈ text.toList, isBlank char = true := by
    constructor
    · intro h char hc
      rw [← hs, List.mem_append] at hc
      exact hc.elim List.mem_takeWhile_imp (h char)
    · intro h char hc
      exact h char ((List.dropWhile_sublist _).mem hc)
  rw [trim, String.ofList_eq_empty_iff, trimWhere, List.reverse_eq_nil_iff,
    List.dropWhile_eq_nil_iff, isAllBlank, List.all_eq_true, ← hf]
  simp only [List.mem_reverse]

namespace Storage

namespace Operation

/-- The file that an operation is about. -/
def subject? : Operation → Option String
  | .details fileId => some fileId
  | .delete fileId => some fileId
  | .update fileId _ => some fileId
  | _ => none

/-- The statuses that promise a result. -/
def Promised : Operation → Nat → Prop
  | .delete _, status => status = 204
  | _, status => 200 ≤ status ∧ status < 300

/-- How a failure begins that an answer describes. -/
def context : Operation → String
  | .credential => ""
  | .upload _ => "Upload failed"
  | .details _ => "Failed to get file details"
  | .list _ => "Failed to list files"
  | .delete _ => "Failed to delete file"
  | .deleteAll _ => "Bulk delete failed"
  | .update _ _ => "Failed to update file"

/-- The kinds of failure that an operation about one file may end in. -/
def fileKinds : List Fault.Kind := [.invalidArgument, .internal, .notFound, .provider]

/-- The kinds of failure that an operation may end in. -/
def kinds : Operation → List Fault.Kind
  | .credential => []
  | .upload _ => [.sizeExceeded, .provider]
  | .list _ => [.provider]
  | .deleteAll _ => [.batchFailure, .provider]
  | _ => fileKinds

end Operation

/-- An answer whose body came whole and is read as something. -/
def Carries {α : Type} (read : Bytes → Option α) (answer : Http.Answer) (result : α) : Prop :=
  answer.bodyEnd = .complete ∧ read answer.body = some result

/-- The result that an answer holds for an operation. The body does not matter to a deletion. -/
def Operation.Holds : (operation : Operation) → Http.Answer → operation.Result → Prop
  | .credential, _, _ => False
  | .upload _, answer, file => Carries readFile? answer file
  | .details _, answer, file => Carries readFile? answer file
  | .list _, answer, page =>
    ∃ files, Carries readFiles? answer files ∧ page = Remote.listing answer files
  | .delete _, _, _ => True
  | .deleteAll fileIds, answer, outcomes =>
    ∃ report, Carries readBatch? answer report ∧ outcomes = fileIds.map report.outcome
  | .update _ _, answer, file => Carries readFile? answer file

/-- The failure of an operation that is promised a result and finds none: the body did not come in
time, or it was cut short or is no such thing. -/
def unreadFault : Http.BodyEnd → Fault
  | .stalled => .provider "Request timeout" (some "TIMEOUT")
  | _ => .provider "Invalid provider response: error decoding response body" (some "DECODE")

/-- What an answer says went wrong: the status, and the body unless it is blank. -/
def Operation.explained (operation : Operation) (answer : Http.Answer) : String :=
  operation.context ++ ": status " ++ Http.statusText answer.status ++
    if Text.isAllBlank answer.bodyText then "" else ": " ++ Text.trim answer.bodyText

/-- What a prepared request meets: what came of sending it, or why it could not be sent. -/
inductive Prepared.Meets (provider : Http.Provider) (sent : List Http.Request) :
    Prepared → Except Http.Problem Http.Answer → Prop where
  /-- It is sent. -/
  | sent (request : Http.Request) :
    Meets provider sent (.ready request) (Http.send provider request sent).result
  /-- It cannot be sent. -/
  | unsendable (problem : Http.Problem) : Meets provider sent (.unsendable problem) (.error problem)

/-- A request whose answer stands meets the answer. -/
theorem Prepared.meets_of_answered {provider : Http.Provider} {sent : List Http.Request}
    {request : Http.Request} {answer : Http.Answer} (hs : Http.isSendable request.url = true)
    (ha : provider (sent ++ [request]) = .answered answer)
    (stands : Http.lead request answer = .stays) :
    (Prepared.ready request).Meets provider sent (.ok answer) := by
  have hm : (Prepared.ready request).Meets provider sent (Http.send provider request sent).result :=
    .sent request
  rwa [Http.send_answered hs ha stands] at hm

namespace Remote

variable {α : Type}

/-- What an inquiry comes to that meets a problem. -/
theorem ask_problem {remote : Remote} {inquiry : Inquiry α} {state : State}
    {problem : Http.Problem}
    (h : inquiry.request.Meets remote.provider state.sent (.error problem)) :
    (remote.ask inquiry state).outcome = .failed (problemFault problem) := by
  generalize hp : inquiry.request = prepared at h
  generalize hm : (Except.error problem : Except Http.Problem Http.Answer) = met at h
  cases h with
  | sent request => simp only [ask, Inquiry.run, hp, ← hm, Inquiry.unanswered]
  | unsendable other =>
    obtain rfl := Except.error.inj hm
    simp only [ask, Inquiry.run, hp, Inquiry.unanswered]

/-- What an inquiry comes to that meets an answer. -/
theorem ask_answer {remote : Remote} {inquiry : Inquiry α} {state : State} {answer : Http.Answer}
    (h : inquiry.request.Meets remote.provider state.sent (.ok answer)) :
    (remote.ask inquiry state).outcome =
      match (inquiry.answered answer).1 with
      | .ok result => .done result
      | .error fault => .failed fault := by
  generalize hp : inquiry.request = prepared at h
  generalize hm : (Except.ok answer : Except Http.Problem Http.Answer) = met at h
  cases h with
  | sent request =>
    cases ha : (inquiry.answered answer).1 <;> simp only [ask, Inquiry.run, hp, ← hm, ha]
  | unsendable other => cases hm

/-- An inquiry that is an operation's: it is about the same file, promises at the same statuses,
fails in the same words, and reads what answers hold. -/
structure Asks (operation : Operation) (inquiry : Inquiry operation.Result) : Prop where
  /-- The file is the same. -/
  subject : inquiry.subject = operation.subject?
  /-- The words are the same. -/
  context : inquiry.context = operation.context
  /-- The same statuses promise a result. -/
  promises : ∀ status, inquiry.accepts status = true ↔ operation.Promised status
  /-- The results are those that answers hold. -/
  reads : ∀ answer result, inquiry.result answer = .ok result ↔ operation.Holds answer result
  /-- A body that is not whole or cannot be read is the only problem. -/
  fails : ∀ answer problem, inquiry.result answer = .error problem →
    problemFault problem = unreadFault answer.bodyEnd

/-- A body is read when it came whole and can be read. -/
theorem readBody_ok_iff {read : Bytes → Option α} {answer : Http.Answer} {result : α} :
    readBody read answer = .ok result ↔ Carries read answer result := by
  rw [readBody, Http.Answer.wholeBody, Carries]
  cases answer.bodyEnd with
  | complete =>
    simp only [bind, Except.bind, true_and]
    cases read answer.body with
    | none => simp only [reduceCtorEq]
    | some found => simp only [Except.ok.injEq, Option.some.injEq]
  | cut => simp only [bind, Except.bind, reduceCtorEq, false_and]
  | stalled => simp only [bind, Except.bind, reduceCtorEq, false_and]

/-- A body is not read when it is no such thing, is cut short or does not come in time. -/
theorem readBody_error {read : Bytes → Option α} {answer : Http.Answer} {problem : Http.Problem}
    (h : readBody read answer = .error problem) :
    problemFault problem = unreadFault answer.bodyEnd := by
  rw [readBody, Http.Answer.wholeBody] at h
  cases he : answer.bodyEnd with
  | complete =>
    simp only [he, bind, Except.bind] at h
    split at h
    · cases h
    · rw [← Except.error.inj h]
      rfl
  | cut =>
    simp only [he, bind, Except.bind] at h
    rw [← Except.error.inj h]
    rfl
  | stalled =>
    simp only [he, bind, Except.bind] at h
    rw [← Except.error.inj h]
    rfl

/-- What is made of a body is there when the body is read. -/
theorem readBody_map_ok_iff {β : Type} {read : Bytes → Option α} {make : α → β}
    {answer : Http.Answer} {result : β} :
    (readBody read answer).map make = .ok result ↔
      ∃ found, Carries read answer found ∧ result = make found := by
  simp only [← readBody_ok_iff]
  cases readBody read answer with
  | error problem => simp only [Except.map, reduceCtorEq, false_and, exists_false]
  | ok found =>
    simp only [Except.map, Except.ok.injEq, exists_eq_left', eq_comm]

/-- Nothing is made of a body that is not read. -/
theorem readBody_map_error {β : Type} {read : Bytes → Option α} {make : α → β}
    {answer : Http.Answer} {problem : Http.Problem}
    (h : (readBody read answer).map make = .error problem) :
    problemFault problem = unreadFault answer.bodyEnd := by
  cases hr : readBody read answer with
  | error other =>
    rw [hr] at h
    obtain rfl := Except.error.inj h
    exact readBody_error hr
  | ok found =>
    rw [hr] at h
    cases h

/-- Success is a status from 200 to 299. -/
theorem isSuccess_iff (status : Nat) :
    Http.isSuccess status = true ↔ 200 ≤ status ∧ status < 300 := by
  simp only [Http.isSuccess, Bool.and_eq_true, decide_eq_true_eq]

/-- The inquiry of an operation is the operation's. -/
theorem asks_of_inquiry {config : StorageConfig} {operation : Operation}
    {inquiry : Inquiry operation.Result} (h : inquiry? config operation = some inquiry) :
    Asks operation inquiry := by
  cases operation with
  | credential => cases h
  | upload content =>
    obtain rfl := Option.some.inj h
    exact ⟨rfl, rfl, isSuccess_iff, fun _ _ => readBody_ok_iff, fun _ _ => readBody_error⟩
  | details fileId =>
    obtain rfl := Option.some.inj h
    exact ⟨rfl, rfl, isSuccess_iff, fun _ _ => readBody_ok_iff, fun _ _ => readBody_error⟩
  | list query =>
    obtain rfl := Option.some.inj h
    exact ⟨rfl, rfl, isSuccess_iff, fun _ _ => readBody_map_ok_iff, fun _ _ => readBody_map_error⟩
  | delete fileId =>
    obtain rfl := Option.some.inj h
    exact ⟨rfl, rfl, fun _ => decide_eq_true_iff, fun _ _ => ⟨fun _ => trivial, fun _ => rfl⟩,
      fun _ _ he => by cases he⟩
  | deleteAll fileIds =>
    obtain rfl := Option.some.inj h
    exact ⟨rfl, rfl, isSuccess_iff, fun _ _ => readBody_map_ok_iff, fun _ _ => readBody_map_error⟩
  | update fileId changes =>
    obtain rfl := Option.some.inj h
    exact ⟨rfl, rfl, isSuccess_iff, fun _ _ => readBody_ok_iff, fun _ _ => readBody_error⟩

/-- What an operation that asks the provider meets. -/
def Met (remote : Remote) (state : State) (operation : Operation)
    (met : Except Http.Problem Http.Answer) : Prop :=
  refusal? remote.config operation = none ∧
    ∃ inquiry, inquiry? remote.config operation = some inquiry ∧
      inquiry.request.Meets remote.provider state.sent met

/-- An operation that is not refused meets something, unless it issues a credential. -/
theorem exists_met (remote : Remote) (state : State) {operation : Operation}
    (asks : operation ≠ .credential) (hr : refusal? remote.config operation = none) :
    ∃ met, remote.Met state operation met := by
  obtain ⟨inquiry, hi⟩ := exists_inquiry remote.config asks
  have hm : ∃ met, inquiry.request.Meets remote.provider state.sent met := by
    cases hq : inquiry.request with
    | ready request => exact ⟨_, .sent request⟩
    | unsendable problem => exact ⟨_, .unsendable problem⟩
    | withheld fault => exact absurd hq (request_ne_withheld hr hi fault)
  obtain ⟨met, hm⟩ := hm
  exact ⟨met, hr, inquiry, hi, hm⟩

/-- How an answer is judged. -/
inductive Judged (operation : Operation) (answer : Http.Answer) :
    Outcome operation.Result → Prop where
  /-- The file is not there. -/
  | missing {fileId : String} (subject : operation.subject? = some fileId)
    (status : answer.status = 404) : Judged operation answer (.failed (.fileNotFound fileId))
  /-- The answer holds the result that its status promises. -/
  | done {result : operation.Result} (promised : operation.Promised answer.status)
    (holds : operation.Holds answer result) : Judged operation answer (.done result)
  /-- The answer does not hold the result that its status promises. -/
  | unreadable (promised : operation.Promised answer.status)
    (vain : ∀ result, ¬operation.Holds answer result) :
    Judged operation answer (.failed (unreadFault answer.bodyEnd))
  /-- The status promises nothing. -/
  | refused (present : answer.status = 404 → operation.subject? = none)
    (unpromised : ¬operation.Promised answer.status) :
    Judged operation answer
      (.failed (.provider (operation.explained answer) (some (toString answer.status))))

/-- No status of success is 404. -/
theorem not_promised_404 (operation : Operation) : ¬operation.Promised 404 := by
  cases operation <;> (simp only [Operation.Promised]; omega)

/-- An answer with a given status is described by that status and by what is left of its body. -/
theorem statusFault_eq {operation : Operation} {inquiry : Inquiry operation.Result}
    (h : Asks operation inquiry) (answer : Http.Answer) :
    statusFault inquiry.context answer.status answer.bodyText =
      .provider (operation.explained answer) (some (toString answer.status)) := by
  simp only [statusFault, h.context, Operation.explained, Text.trim_eq_empty_iff]

/-- What an answer is taken for, and what is told of it: a file that is not there, the result that
is promised and held, a promise that is not kept, or a failure that the answer describes. -/
theorem answered_cases {operation : Operation} {inquiry : Inquiry operation.Result}
    (h : Asks operation inquiry) (answer : Http.Answer) :
    (∃ fileId, operation.subject? = some fileId ∧ answer.status = 404 ∧
      inquiry.answered answer = (.error (.fileNotFound fileId), [Inquiry.missingEvent fileId])) ∨
    (∃ result, operation.Promised answer.status ∧ operation.Holds answer result ∧
      inquiry.answered answer = (.ok result, [inquiry.finished result])) ∨
    (operation.Promised answer.status ∧ (∀ result, ¬operation.Holds answer result) ∧
      inquiry.answered answer = (.error (unreadFault answer.bodyEnd), [])) ∨
    (∃ fault, (answer.status = 404 → operation.subject? = none) ∧
      ¬operation.Promised answer.status ∧
      fault = .provider (operation.explained answer) (some (toString answer.status)) ∧
      inquiry.answered answer = (.error fault, [inquiry.failedEvent fault])) := by
  have hj : (answer.status = 404 → operation.subject? = none) →
      inquiry.answered answer = if inquiry.accepts answer.status then inquiry.accepted answer
        else inquiry.rejected answer := by
    intro hp
    rw [Inquiry.answered, h.subject]
    split
    next fileId hs =>
      rw [if_neg fun h404 => by rw [hp h404] at hs; cases hs]
    next => rfl
  by_cases hp : answer.status = 404 → operation.subject? = none
  · rw [hj hp]
    by_cases hq : operation.Promised answer.status
    · rw [if_pos ((h.promises _).mpr hq), Inquiry.accepted]
      cases he : inquiry.result answer with
      | ok result => exact .inr (.inl ⟨result, hq, (h.reads answer result).mp he, rfl⟩)
      | error problem =>
        have hv : ∀ result, ¬operation.Holds answer result := by
          intro result holds
          rw [(h.reads answer result).mpr holds] at he
          cases he
        rw [← h.fails answer problem he]
        exact .inr (.inr (.inl ⟨hq, hv, rfl⟩))
    · rw [if_neg fun hc => hq ((h.promises _).mp hc), Inquiry.rejected]
      exact .inr (.inr (.inr ⟨_, hp, hq, statusFault_eq h answer, rfl⟩))
  · obtain ⟨h404, hs⟩ := Classical.not_imp.mp hp
    obtain ⟨fileId, hs⟩ := Option.ne_none_iff_exists'.mp hs
    refine .inl ⟨fileId, hs, h404, ?_⟩
    rw [Inquiry.answered, h.subject, hs]
    simp only [h404, if_true]

/-- An answer is judged. -/
theorem judged_of_met {remote : Remote} {state : State} {operation : Operation}
    {answer : Http.Answer} (h : remote.Met state operation (.ok answer)) :
    Judged operation answer (remote.storage operation state).outcome := by
  obtain ⟨hr, inquiry, hi, hm⟩ := h
  rw [storage_asks hr hi, ask_answer hm]
  obtain ⟨fileId, hs, h404, he⟩ | ⟨result, hp, hh, he⟩ | ⟨hp, hv, he⟩ |
    ⟨fault, hk, hu, rfl, he⟩ := answered_cases (asks_of_inquiry hi) answer
  · rw [he]
    exact .missing hs h404
  · rw [he]
    exact .done hp hh
  · rw [he]
    exact .unreadable hp hv
  · rw [he]
    exact .refused hk hu

/-- A body is read as one thing only. -/
theorem Carries.unique {read : Bytes → Option α} {answer : Http.Answer} {left right : α}
    (hl : Carries read answer left) (hr : Carries read answer right) : left = right :=
  Option.some.inj (hl.2.symm.trans hr.2)

/-- An answer holds one result at most. -/
theorem holds_unique {operation : Operation} {answer : Http.Answer}
    {left right : operation.Result} (hl : operation.Holds answer left)
    (hr : operation.Holds answer right) : left = right := by
  cases operation with
  | credential => exact hl.elim
  | upload content => exact Carries.unique hl hr
  | details fileId => exact Carries.unique hl hr
  | list query =>
    obtain ⟨files, hf, rfl⟩ := hl
    obtain ⟨others, ho, rfl⟩ := hr
    rw [Carries.unique hf ho]
  | delete fileId => rfl
  | deleteAll fileIds =>
    obtain ⟨report, hf, rfl⟩ := hl
    obtain ⟨other, ho, rfl⟩ := hr
    rw [Carries.unique hf ho]
  | update fileId changes => exact Carries.unique hl hr

/-- How an operation ends that meets an answer. -/
structure Decided (operation : Operation) (answer : Http.Answer)
    (outcome : Outcome operation.Result) : Prop where
  /-- It is done when the status promises a result and the answer holds one. -/
  done_iff : ∀ result,
    outcome = .done result ↔ operation.Promised answer.status ∧ operation.Holds answer result
  /-- It fails for a file that is not there when it is about one file and the status is 404. -/
  missing_iff : (∃ fault, outcome = .failed fault ∧ fault.kind = .notFound) ↔
    operation.subject? ≠ none ∧ answer.status = 404
  /-- The failure names the file. -/
  missing : ∀ fileId, operation.subject? = some fileId → answer.status = 404 →
    outcome = .failed (.fileNotFound fileId)
  /-- Another status that promises nothing is told with what is left of the body. -/
  refused : (answer.status = 404 → operation.subject? = none) →
    ¬operation.Promised answer.status →
      outcome = .failed (.provider (operation.explained answer) (some (toString answer.status)))
  /-- A promise that is not kept is a failure of the provider: the time ran out for a body that did
  not come in time, and any other body could not be decoded. -/
  unreadable : operation.Promised answer.status → (∀ result, ¬operation.Holds answer result) →
    outcome = .failed (if answer.bodyEnd = .stalled then
      .provider "Request timeout" (some "TIMEOUT")
    else .provider "Invalid provider response: error decoding response body" (some "DECODE"))

/-- Time that ran out is told apart from a body that cannot be decoded. -/
theorem unreadFault_eq (bodyEnd : Http.BodyEnd) :
    unreadFault bodyEnd = if bodyEnd = .stalled then .provider "Request timeout" (some "TIMEOUT")
      else .provider "Invalid provider response: error decoding response body" (some "DECODE") := by
  cases bodyEnd <;> rfl

/-- A promise that is not kept is a failure of the provider. -/
theorem unreadFault_kind (bodyEnd : Http.BodyEnd) :
    (unreadFault bodyEnd).kind = .provider := by
  cases bodyEnd <;> rfl

/-- What is judged is decided. -/
theorem Judged.decided {operation : Operation} {answer : Http.Answer}
    {outcome : Outcome operation.Result} (h : Judged operation answer outcome) :
    Decided operation answer outcome := by
  have hp : answer.status = 404 → ¬operation.Promised answer.status := by
    intro h404
    rw [h404]
    exact not_promised_404 operation
  cases h with
  | missing subject status =>
    refine ⟨fun result => ⟨nofun, fun hq => absurd hq.1 (hp status)⟩, ?_, ?_, ?_, ?_⟩
    · exact ⟨fun _ => ⟨by rw [subject]; exact Option.some_ne_none _, status⟩,
        fun _ => ⟨_, rfl, rfl⟩⟩
    · intro other hs _
      rw [Option.some.inj (subject.symm.trans hs)]
    · intro hn
      rw [hn status] at subject
      cases subject
    · exact fun hq => absurd hq (hp status)
  | done promised holds =>
    refine ⟨fun other => ?_, ?_, ?_, ?_, ?_⟩
    · constructor
      · intro he
        obtain rfl := Outcome.done.inj he
        exact ⟨promised, holds⟩
      · rintro ⟨_, ho⟩
        rw [holds_unique holds ho]
    · exact ⟨nofun, fun hs => absurd promised (hp hs.2)⟩
    · exact fun _ _ h404 => absurd promised (hp h404)
    · exact fun _ hu => absurd promised hu
    · exact fun _ vain => absurd holds (vain _)
  | unreadable promised vain =>
    refine ⟨fun result => ⟨nofun, fun hq => absurd hq.2 (vain result)⟩, ?_, ?_, ?_, ?_⟩
    · refine ⟨?_, fun hs => absurd promised (hp hs.2)⟩
      rintro ⟨fault, hf, hk⟩
      rw [← Outcome.failed.inj hf, unreadFault_kind] at hk
      cases hk
    · exact fun _ _ h404 => absurd promised (hp h404)
    · exact fun _ hu => absurd promised hu
    · exact fun _ _ => congrArg Outcome.failed (unreadFault_eq answer.bodyEnd)
  | refused present unpromised =>
    refine ⟨fun result => ⟨nofun, fun hq => absurd hq.1 unpromised⟩, ?_, ?_, ?_, ?_⟩
    · exact ⟨nofun, fun hs => absurd (present hs.2) hs.1⟩
    · intro fileId hs h404
      rw [present h404] at hs
      cases hs
    · exact fun _ _ => rfl
    · exact fun hq _ => absurd hq unpromised

/-- An address is refused as unacceptable or as a mistake of the setup. -/
theorem kind_of_addressRefusal {config : StorageConfig} {fileId : String} {about : List String}
    {fault : Fault} (h : addressRefusal? config fileId about = some fault) :
    fault.kind = .invalidArgument ∨ fault.kind = .internal := by
  rw [addressRefusal?, fileAddress] at h
  split at h
  next found he =>
    obtain rfl := Option.some.inj h
    split at he
    · exact .inl (by rw [← Except.error.inj he]; rfl)
    · split at he
      · exact .inr (by rw [← Except.error.inj he]; rfl)
      · split at he
        · exact .inr (by rw [← Except.error.inj he]; rfl)
        · cases he
  · cases h

/-- A refusal is of a kind that the operation may end in. -/
theorem kind_of_refusal {config : StorageConfig} {operation : Operation} {fault : Fault}
    (h : refusal? config operation = some fault) : fault.kind ∈ operation.kinds := by
  have hf : ∀ fileId about, addressRefusal? config fileId about = some fault →
      fault.kind ∈ Operation.fileKinds := by
    intro fileId about ha
    rcases kind_of_addressRefusal ha with hk | hk <;> rw [hk] <;> decide
  cases operation with
  | credential => cases h
  | list query => cases h
  | upload content =>
    rw [refusal?] at h
    split at h
    · rw [← Option.some.inj h]
      exact List.mem_cons_self
    · cases h
  | deleteAll fileIds =>
    rw [refusal?] at h
    split at h
    · rw [← Option.some.inj h]
      exact List.mem_cons_self
    · cases h
  | details fileId => exact hf fileId _ h
  | delete fileId => exact hf fileId _ h
  | update fileId changes => exact hf fileId _ h

/-- Every operation may fail for the provider, unless it issues a credential. -/
theorem provider_mem_kinds {operation : Operation} (asks : operation ≠ .credential) :
    Fault.Kind.provider ∈ operation.kinds := by
  cases operation with
  | credential => exact absurd rfl asks
  | upload content => exact List.mem_cons_of_mem _ List.mem_cons_self
  | list query => exact List.mem_cons_self
  | deleteAll fileIds => exact List.mem_cons_of_mem _ List.mem_cons_self
  | details fileId => exact (by decide : Fault.Kind.provider ∈ Operation.fileKinds)
  | delete fileId => exact (by decide : Fault.Kind.provider ∈ Operation.fileKinds)
  | update fileId changes => exact (by decide : Fault.Kind.provider ∈ Operation.fileKinds)

/-- What is judged is no panic, and a failure is of a kind that the operation may end in. -/
theorem Judged.kind {operation : Operation} {answer : Http.Answer}
    {outcome : Outcome operation.Result} (asks : operation ≠ .credential)
    (h : Judged operation answer outcome) :
    (∃ result, outcome = .done result) ∨
      ∃ fault, outcome = .failed fault ∧ fault.kind ∈ operation.kinds := by
  have hp := provider_mem_kinds asks
  cases h with
  | missing subject status =>
    refine .inr ⟨_, rfl, ?_⟩
    have hn : Fault.Kind.notFound ∈ Operation.fileKinds := by decide
    cases operation <;> cases subject <;> exact hn
  | done promised holds => exact .inl ⟨_, rfl⟩
  | unreadable promised vain => exact .inr ⟨_, rfl, by rwa [unreadFault_kind]⟩
  | refused present unpromised => exact .inr ⟨_, rfl, hp⟩

/-- Every operation is done or fails in one of its kinds. -/
theorem storage_ends (remote : Remote) (operation : Operation) (state : State) :
    (∃ result, (remote.storage operation state).outcome = .done result) ∨
      ∃ fault, (remote.storage operation state).outcome = .failed fault ∧
        fault.kind ∈ operation.kinds := by
  by_cases ha : operation = .credential
  · subst ha
    exact .inl ⟨_, rfl⟩
  · cases hr : refusal? remote.config operation with
    | some fault => exact .inr ⟨fault, (storage_refused hr state).1, kind_of_refusal hr⟩
    | none =>
      obtain ⟨met, hm⟩ := exists_met remote state ha hr
      cases met with
      | ok answer => exact (judged_of_met hm).kind ha
      | error problem =>
        obtain ⟨_, inquiry, hi, hq⟩ := hm
        refine .inr ⟨problemFault problem, ?_, provider_mem_kinds ha⟩
        rw [storage_asks hr hi, ask_problem hq]

/-- An operation that is not refused fails for the provider or for a file that is not there. -/
theorem kind_of_unrefused {remote : Remote} {operation : Operation} {state : State} {fault : Fault}
    (hr : refusal? remote.config operation = none)
    (h : (remote.storage operation state).outcome = .failed fault) :
    fault.kind = .provider ∨ fault.kind = .notFound := by
  by_cases ha : operation = .credential
  · subst ha
    cases h
  · obtain ⟨met, hm⟩ := exists_met remote state ha hr
    cases met with
    | error problem =>
      obtain ⟨_, inquiry, hi, hq⟩ := hm
      rw [storage_asks hr hi, ask_problem hq] at h
      obtain rfl := Outcome.failed.inj h
      exact .inl rfl
    | ok answer =>
      have hj := judged_of_met hm
      rw [h] at hj
      cases hj with
      | missing subject status => exact .inr rfl
      | unreadable promised vain => exact .inl (unreadFault_kind answer.bodyEnd)
      | refused present unpromised => exact .inl rfl

/-- A provider that knows of no file and no page. -/
def goneRemote : Remote :=
  ⟨⟨"private", "http://[::1]", "http://[::1]", 60, 100, 100⟩, 0,
    fun _ => .answered ⟨404, [], Bytes.ofText " gone\n", .complete⟩⟩

end Remote

end Storage

end MediaGateway
