import MediaGateway.Proofs.Storage.Outcome

/-!
# What an operation tells

An operation that asks the provider tells that it begins. Nearly always it then tells
how it ends, once: a result, a file that is not there, or the message of its failure.
One end is passed over in silence: an answer that promises a result and does not hold
it. An operation that is refused either tells of its beginning alone, or of the
refusal alone.
-/

namespace MediaGateway.Storage

namespace Operation

/-- The words at the beginning of an operation. -/
def beginning : Operation → String
  | .credential => "Generating authentication parameters"
  | .upload _ => "Uploading file"
  | .details _ => "Fetching file details"
  | .list _ => "Listing files"
  | .delete _ => "Deleting file"
  | .deleteAll _ => "Bulk deleting files"
  | .update _ _ => "Updating file details"

/-- The words for a result. -/
def completion : Operation → String
  | .credential => "Generated authentication parameters"
  | .upload _ => "File uploaded successfully"
  | .details _ => "File details retrieved"
  | .list _ => "Files listed successfully"
  | .delete _ => "File deleted successfully"
  | .deleteAll _ => "Bulk delete completed"
  | .update _ _ => "File details updated successfully"

/-- The words for a failure. -/
def failure : Operation → String
  | .credential => "Failed to get authentication parameters"
  | .upload _ => "File upload failed"
  | .details _ => "Failed to get file details"
  | .list _ => "Failed to list files"
  | .delete _ => "Failed to delete file"
  | .deleteAll _ => "Bulk delete failed"
  | .update _ _ => "Failed to update file details"

/-- An event tells that an operation begins, and names the file that it is about. -/
def Begins (operation : Operation) (told : Event) : Prop :=
  ∃ fields, told = .info .storage operation.beginning fields ∧
    ∀ fileId, operation.subject? = some fileId → ("file_id", .text fileId) ∈ fields

/-- An event tells how an operation ends. -/
inductive Concludes (operation : Operation) : Outcome operation.Result → Event → Prop where
  /-- With a result. -/
  | done (result : operation.Result) (fields : List (String × Event.Value)) :
    Concludes operation (.done result) (.info .storage operation.completion fields)
  /-- Without the file that it is about. -/
  | missing {fault : Fault} {fileId : String} (kind : fault.kind = .notFound)
    (subject : operation.subject? = some fileId) :
    Concludes operation (.failed fault)
      (.info .storage "File not found" [("file_id", .text fileId)])
  /-- With any other failure, whose message is told. -/
  | failed {fault : Fault} {fields : List (String × Event.Value)} (kind : fault.kind ≠ .notFound)
    (message : ("error", .text fault.message) ∈ fields) :
    Concludes operation (.failed fault) (.error .storage operation.failure fields)

/-- All that is told of an operation is that it begins. -/
def BrokenOff (operation : Operation) (told : List Event) : Prop :=
  ∃ begun, operation.Begins begun ∧ told = [begun]

/-- What is told of an operation is that it begins, and then how it ends. -/
def Accounted (operation : Operation) (outcome : Outcome operation.Result) (told : List Event) :
    Prop :=
  ∃ begun ended, operation.Begins begun ∧ operation.Concludes outcome ended ∧
    told = [begun, ended]

/-- The storage tells that an operation begins. -/
theorem Begins.source {operation : Operation} {told : Event} (h : operation.Begins told) :
    told.source = .storage := by
  obtain ⟨fields, rfl, _⟩ := h
  rfl

/-- The storage tells how an operation ends. -/
theorem Concludes.source {operation : Operation} {outcome : Outcome operation.Result}
    {told : Event} (h : operation.Concludes outcome told) : told.source = .storage := by
  cases h <;> rfl

/-- An operation that is broken off is not accounted for. -/
theorem BrokenOff.not_accounted {operation : Operation} {told : List Event}
    (h : operation.BrokenOff told) (outcome : Outcome operation.Result) :
    ¬operation.Accounted outcome told := by
  obtain ⟨begun, _, rfl⟩ := h
  rintro ⟨_, _, _, _, he⟩
  cases he

end Operation

namespace Remote

/-- An inquiry that speaks for an operation: it uses the operation's words. -/
structure Speaks (operation : Operation) (inquiry : Inquiry operation.Result) : Prop where
  /-- At the beginning. -/
  started : operation.Begins inquiry.started
  /-- For a failure. -/
  failed : inquiry.failedText = operation.failure
  /-- For a result. -/
  finished : ∀ result, ∃ fields,
    inquiry.finished result = .info .storage operation.completion fields

/-- The inquiry of an operation speaks for it. -/
theorem speaks_of_inquiry {config : StorageConfig} {operation : Operation}
    {inquiry : Inquiry operation.Result} (h : inquiry? config operation = some inquiry) :
    Speaks operation inquiry := by
  cases operation with
  | credential => cases h
  | upload content =>
    obtain rfl := Option.some.inj h
    exact ⟨⟨_, rfl, fun _ hs => by cases hs⟩, rfl, fun _ => ⟨_, rfl⟩⟩
  | details fileId =>
    obtain rfl := Option.some.inj h
    refine ⟨⟨_, rfl, fun other hs => ?_⟩, rfl, fun _ => ⟨_, rfl⟩⟩
    obtain rfl := Option.some.inj hs
    exact List.mem_cons_self
  | list query =>
    obtain rfl := Option.some.inj h
    exact ⟨⟨_, rfl, fun _ hs => by cases hs⟩, rfl, fun _ => ⟨_, rfl⟩⟩
  | delete fileId =>
    obtain rfl := Option.some.inj h
    refine ⟨⟨_, rfl, fun other hs => ?_⟩, rfl, fun _ => ⟨_, rfl⟩⟩
    obtain rfl := Option.some.inj hs
    exact List.mem_cons_self
  | deleteAll fileIds =>
    obtain rfl := Option.some.inj h
    exact ⟨⟨_, rfl, fun _ hs => by cases hs⟩, rfl, fun _ => ⟨_, rfl⟩⟩
  | update fileId changes =>
    obtain rfl := Option.some.inj h
    refine ⟨⟨_, rfl, fun other hs => ?_⟩, rfl, fun _ => ⟨_, rfl⟩⟩
    obtain rfl := Option.some.inj hs
    exact List.mem_cons_self

variable {α : Type}

/-- What is told of an inquiry that meets a problem. -/
theorem events_of_problem {remote : Remote} {inquiry : Inquiry α} {state : State}
    {problem : Http.Problem}
    (h : inquiry.request.Meets remote.provider state.sent (.error problem)) :
    (remote.ask inquiry state).events =
      [inquiry.started, inquiry.failedEvent (problemFault problem)] := by
  generalize hp : inquiry.request = prepared at h
  generalize hm : (Except.error problem : Except Http.Problem Http.Answer) = met at h
  cases h with
  | sent request => simp only [ask, Inquiry.run, hp, ← hm, Inquiry.unanswered]
  | unsendable other =>
    obtain rfl := Except.error.inj hm
    simp only [ask, Inquiry.run, hp, Inquiry.unanswered]

/-- What is told of an inquiry that meets an answer. -/
theorem events_of_answer {remote : Remote} {inquiry : Inquiry α} {state : State}
    {answer : Http.Answer}
    (h : inquiry.request.Meets remote.provider state.sent (.ok answer)) :
    (remote.ask inquiry state).events = inquiry.started :: (inquiry.answered answer).2 := by
  generalize hp : inquiry.request = prepared at h
  generalize hm : (Except.ok answer : Except Http.Problem Http.Answer) = met at h
  cases h with
  | sent request => simp only [ask, Inquiry.run, hp, ← hm]
  | unsendable other => cases hm

/-- The beginning is all that is told of a request that is withheld. -/
theorem events_of_withheld {remote : Remote} {inquiry : Inquiry α} {fault : Fault}
    (h : inquiry.request = .withheld fault) (state : State) :
    (remote.ask inquiry state).events = [inquiry.started] := by
  simp only [ask, Inquiry.run, h]

/-- A failure of the provider is no missing file. -/
theorem provider_kind_ne (reason : String) (code : Option String) :
    (Fault.provider reason code).kind ≠ .notFound := by
  show Fault.Kind.provider ≠ .notFound
  decide

/-- The failure of an operation is told with its message. -/
theorem Speaks.concludes {operation : Operation} {inquiry : Inquiry operation.Result}
    (h : Speaks operation inquiry) {fault : Fault} (hk : fault.kind ≠ .notFound) :
    operation.Concludes (.failed fault) (inquiry.failedEvent fault) := by
  rw [Inquiry.failedEvent, h.failed]
  exact .failed hk (List.mem_append_right _ List.mem_cons_self)

/-- A request meets one thing only. -/
theorem meets_unique {provider : Http.Provider} {sent : List Http.Request} {prepared : Prepared}
    {left right : Except Http.Problem Http.Answer} (hl : prepared.Meets provider sent left)
    (hr : prepared.Meets provider sent right) : left = right := by
  cases hl with
  | sent request =>
    cases hr with
    | sent => rfl
  | unsendable problem =>
    cases hr with
    | unsendable => rfl

/-- An operation meets one thing only. -/
theorem met_unique {remote : Remote} {state : State} {operation : Operation}
    {left right : Except Http.Problem Http.Answer} (hl : remote.Met state operation left)
    (hr : remote.Met state operation right) : left = right := by
  obtain ⟨_, inquiry, hi, hm⟩ := hl
  obtain ⟨_, other, ho, hn⟩ := hr
  obtain rfl := Option.some.inj (hi.symm.trans ho)
  exact meets_unique hm hn

/-- An operation meets an answer that promises a result and does not hold it. -/
def Disappointed (remote : Remote) (state : State) (operation : Operation) : Prop :=
  ∃ answer, remote.Met state operation (.ok answer) ∧ operation.Promised answer.status ∧
    ∀ result, ¬operation.Holds answer result

/-- A failure for want of a result is that of a problem with the body. -/
theorem exists_problem_of_unreadFault (bodyEnd : Http.BodyEnd) :
    ∃ problem : Http.Problem, (problem = .undecodable ∨ problem = .timeout) ∧
      unreadFault bodyEnd = .provider problem.text problem.code? := by
  cases bodyEnd with
  | stalled => exact ⟨.timeout, .inr rfl, rfl⟩
  | cut => exact ⟨.undecodable, .inl rfl, rfl⟩
  | complete => exact ⟨.undecodable, .inl rfl, rfl⟩

/-- A promise that is not kept is a failure of the provider, and nothing is told of it. -/
theorem broken_off_of_disappointed {remote : Remote} {state : State} {operation : Operation}
    (h : remote.Disappointed state operation) :
    operation.BrokenOff (remote.storage operation state).events ∧
      ∃ problem : Http.Problem, (problem = .undecodable ∨ problem = .timeout) ∧
        (remote.storage operation state).outcome =
          .failed (.provider problem.text problem.code?) := by
  obtain ⟨answer, hm, hp, hv⟩ := h
  have hd := (judged_of_met hm).decided.unreadable hp hv
  obtain ⟨problem, named, hf⟩ := exists_problem_of_unreadFault answer.bodyEnd
  rw [← unreadFault_eq, hf] at hd
  obtain ⟨hr, inquiry, hi, hq⟩ := hm
  refine ⟨⟨inquiry.started, (speaks_of_inquiry hi).started, ?_⟩, problem, named, hd⟩
  rw [storage_asks hr hi, events_of_answer hq]
  obtain ⟨fileId, hs, h404, _⟩ | ⟨result, _, hh, _⟩ | ⟨_, _, he⟩ |
    ⟨fault, _, hu, _, _⟩ := answered_cases (asks_of_inquiry hi) answer
  · rw [h404] at hp
    exact absurd hp (not_promised_404 operation)
  · exact absurd hh (hv result)
  · rw [he]
  · exact absurd hp hu

/-- An operation that is not refused and not disappointed is accounted for. -/
theorem accounted_of_met {remote : Remote} {state : State} {operation : Operation}
    {met : Except Http.Problem Http.Answer} (hm : remote.Met state operation met)
    (hd : ¬remote.Disappointed state operation) :
    operation.Accounted (remote.storage operation state).outcome
      (remote.storage operation state).events := by
  obtain ⟨hr, inquiry, hi, hq⟩ := id hm
  have hs := speaks_of_inquiry hi
  rw [storage_asks hr hi]
  cases met with
  | error problem =>
    rw [ask_problem hq, events_of_problem hq]
    exact ⟨_, _, hs.started, hs.concludes (provider_kind_ne _ _), rfl⟩
  | ok answer =>
    rw [ask_answer hq, events_of_answer hq]
    obtain ⟨fileId, hf, _, he⟩ | ⟨result, _, _, he⟩ | ⟨hp, hv, _⟩ |
      ⟨fault, _, _, hf, he⟩ := answered_cases (asks_of_inquiry hi) answer
    · rw [he]
      exact ⟨_, _, hs.started, .missing rfl hf, rfl⟩
    · obtain ⟨fields, hw⟩ := hs.finished result
      rw [he, hw]
      exact ⟨_, _, hs.started, .done result fields, rfl⟩
    · exact absurd ⟨answer, hm, hp, hv⟩ hd
    · have hk : fault.kind ≠ .notFound := by
        rw [hf]
        exact provider_kind_ne _ _
      rw [he]
      exact ⟨_, _, hs.started, hs.concludes hk, rfl⟩

/-- The beginning is all that is told of an operation without an address. -/
theorem broken_off_of_refused {remote : Remote} {operation : Operation} {fault : Fault}
    (h : refusal? remote.config operation = some fault) (hs : operation.subject? ≠ none)
    (state : State) : operation.BrokenOff (remote.storage operation state).events := by
  cases operation with
  | credential => exact absurd rfl hs
  | upload content => exact absurd rfl hs
  | list query => exact absurd rfl hs
  | deleteAll fileIds => exact absurd rfl hs
  | details fileId =>
    have hv : Speaks (.details fileId) (detailsInquiry remote.config fileId) :=
      speaks_of_inquiry (show inquiry? remote.config _ = _ from rfl)
    exact ⟨_, hv.started, events_of_withheld (fileRequest_refused h _ _) state⟩
  | delete fileId =>
    have hv : Speaks (.delete fileId) (deleteInquiry remote.config fileId) :=
      speaks_of_inquiry (show inquiry? remote.config _ = _ from rfl)
    exact ⟨_, hv.started, events_of_withheld (fileRequest_refused h _ _) state⟩
  | update fileId changes =>
    have hv : Speaks (.update fileId changes) (updateInquiry remote.config fileId changes) :=
      speaks_of_inquiry (show inquiry? remote.config _ = _ from rfl)
    exact ⟨_, hv.started, events_of_withheld (fileRequest_refused h _ _) state⟩

/-- The refusal is all that is told of a file that is too large and of a batch that is too
long. -/
theorem told_of_refused {remote : Remote} {operation : Operation} {fault : Fault}
    (h : refusal? remote.config operation = some fault) (hs : operation.subject? = none)
    (state : State) :
    ∃ words fields, (remote.storage operation state).events = [.error .storage words fields] ∧
      ("error", .text fault.message) ∈ fields := by
  have hl : ∀ (fields : List (String × Event.Value)) (last : String × Event.Value),
      last ∈ fields ++ [last] := fun fields last => List.mem_append_right _ List.mem_cons_self
  cases operation with
  | credential => cases h
  | list query => cases h
  | details fileId => cases hs
  | delete fileId => cases hs
  | update fileId changes => cases hs
  | upload content =>
    rw [refusal?] at h
    split at h
    next ht =>
      obtain rfl := Option.some.inj h
      simp only [storage, ht, if_true]
      exact ⟨_, _, rfl, hl [_, _] _⟩
    · cases h
  | deleteAll fileIds =>
    rw [refusal?] at h
    split at h
    next ht =>
      obtain rfl := Option.some.inj h
      simp only [storage, ht, if_true]
      exact ⟨_, _, rfl, hl [_] _⟩
    · cases h

/-- Everything that is told of an operation comes from the storage. -/
theorem storage_events_source (remote : Remote) (operation : Operation) (state : State) :
    ∀ event ∈ (remote.storage operation state).events, event.source = .storage := by
  have hb : operation.BrokenOff (remote.storage operation state).events →
      ∀ event ∈ (remote.storage operation state).events, event.source = .storage := by
    rintro ⟨begun, hs, he⟩
    rw [he]
    exact List.forall_mem_singleton.mpr hs.source
  by_cases asks : operation = .credential
  · subst asks
    exact List.forall_mem_cons.mpr ⟨rfl, List.forall_mem_singleton.mpr rfl⟩
  · cases hr : refusal? remote.config operation with
    | some fault =>
      by_cases hs : operation.subject? = none
      · obtain ⟨words, fields, he, _⟩ := told_of_refused hr hs state
        rw [he]
        exact List.forall_mem_singleton.mpr rfl
      · exact hb (broken_off_of_refused hr hs state)
    | none =>
      by_cases hd : remote.Disappointed state operation
      · exact hb (broken_off_of_disappointed hd).1
      · obtain ⟨met, hm⟩ := exists_met remote state asks hr
        obtain ⟨begun, ended, hs, hc, he⟩ := accounted_of_met hm hd
        rw [he]
        exact List.forall_mem_cons.mpr ⟨hs.source, List.forall_mem_singleton.mpr hc.source⟩

/-- An operation that asks the provider tells that it begins and then, once, how it ends, unless
the answer promises a result and does not hold it. Then it fails, and its beginning is all that is
told. Whatever is refused before anything is sent fails as well: of a file without an address the
beginning is told, of anything else the refusal, and nothing more. -/
theorem storage_accounted_iff (remote : Remote) (state : State) {operation : Operation}
    (asks : operation ≠ .credential) :
    let ran := remote.storage operation state
    (refusal? remote.config operation = none →
      (operation.Accounted ran.outcome ran.events ↔ ¬remote.Disappointed state operation)) ∧
    (remote.Disappointed state operation → operation.BrokenOff ran.events ∧
      ∃ problem : Http.Problem, (problem = .undecodable ∨ problem = .timeout) ∧
        ran.outcome = .failed (.provider problem.text problem.code?)) ∧
    (∀ fault, refusal? remote.config operation = some fault →
      ran.outcome = .failed fault ∧ ¬operation.Accounted ran.outcome ran.events ∧
      (operation.subject? ≠ none → operation.BrokenOff ran.events) ∧
      (operation.subject? = none → ∃ words fields, ran.events = [.error .storage words fields] ∧
        ("error", .text fault.message) ∈ fields)) := by
  intro ran
  refine ⟨fun hr => ⟨fun ha hd => ?_, fun hd => ?_⟩, broken_off_of_disappointed, ?_⟩
  · exact (broken_off_of_disappointed hd).1.not_accounted _ ha
  · obtain ⟨met, hm⟩ := exists_met remote state asks hr
    exact accounted_of_met hm hd
  · intro fault hr
    refine ⟨(storage_refused hr state).1, ?_, fun hs => broken_off_of_refused hr hs state,
      fun hs => told_of_refused hr hs state⟩
    by_cases hs : operation.subject? = none
    · obtain ⟨words, fields, he, _⟩ := told_of_refused hr hs state
      rintro ⟨_, _, _, _, hc⟩
      rw [show ran.events = _ from he] at hc
      cases hc
    · exact (broken_off_of_refused hr hs state).not_accounted _

/-- A deletion for which the provider knows no file is accounted for. -/
theorem gone_accounted :
    (Operation.delete "a").Accounted (goneRemote.storage (.delete "a") ⟨[], []⟩).outcome
      (goneRemote.storage (.delete "a") ⟨[], []⟩).events := by
  have hm : goneRemote.Met ⟨[], []⟩ (.delete "a")
      (.ok ⟨404, [], Bytes.ofText " gone\n", .complete⟩) :=
    ⟨rfl, _, rfl, Prepared.meets_of_answered (by decide) rfl rfl⟩
  have hd : ¬goneRemote.Disappointed ⟨[], []⟩ (.delete "a") := by
    rintro ⟨answer, ha, hp, _⟩
    obtain rfl := Except.ok.inj (met_unique hm ha)
    exact absurd hp (not_promised_404 _)
  exact ((storage_accounted_iff goneRemote ⟨[], []⟩ Operation.noConfusion).1 hm.1).mpr hd

/-- A provider that answers every request with a success and a body that describes nothing. -/
def garbledRemote : Remote :=
  ⟨⟨"private", "http://[::1]", "http://[::1]", 60, 100, 100⟩, 0,
    fun _ => .answered ⟨200, [], Bytes.ofText "no file", .complete⟩⟩

/-- A question for a file that is answered with a success and a body that describes no file fails,
and nothing but its beginning is told; likewise a question that is refused for dots. -/
theorem garbled_details_not_accounted :
    let asked := garbledRemote.storage (.details "a") ⟨[], []⟩
    let dotted := garbledRemote.storage (.details ".") ⟨[], []⟩
    garbledRemote.Met ⟨[], []⟩ (.details "a")
      (.ok ⟨200, [], Bytes.ofText "no file", .complete⟩) ∧
    asked.events = [.info .storage "Fetching file details" [("file_id", .text "a")]] ∧
    asked.outcome = .failed (.provider "Invalid provider response: error decoding response body"
      (some "DECODE")) ∧
    ¬(Operation.details "a").Accounted asked.outcome asked.events ∧
    dotted.events = [.info .storage "Fetching file details" [("file_id", .text ".")]] ∧
    dotted.outcome = .failed (.invalid "Invalid file ID: .") ∧
    ¬(Operation.details ".").Accounted dotted.outcome dotted.events := by
  intro asked dotted
  have hq : (detailsInquiry garbledRemote.config "a").request.Meets garbledRemote.provider []
      (.ok ⟨200, [], Bytes.ofText "no file", .complete⟩) :=
    Prepared.meets_of_answered (by decide) rfl rfl
  have hm : garbledRemote.Met ⟨[], []⟩ (.details "a")
      (.ok ⟨200, [], Bytes.ofText "no file", .complete⟩) := ⟨rfl, _, rfl, hq⟩
  have hn : readFile? (Bytes.ofText "no file") = none := by decide +kernel
  have hd : garbledRemote.Disappointed ⟨[], []⟩ (.details "a") := by
    refine ⟨_, hm, by simp only [Operation.Promised]; omega, fun file hf => ?_⟩
    have hs : readFile? (Bytes.ofText "no file") = some file := hf.2
    rw [hn] at hs
    cases hs
  have ha : asked.outcome = .failed (problemFault .undecodable) := by
    have he : (Inquiry.answered (detailsInquiry garbledRemote.config "a")
        ⟨200, [], Bytes.ofText "no file", .complete⟩).1 = .error (problemFault .undecodable) := by
      decide +kernel
    have ho : (garbledRemote.ask (detailsInquiry garbledRemote.config "a") ⟨[], []⟩).outcome =
        _ := ask_answer hq
    rw [he] at ho
    exact ho
  have hr : refusal? garbledRemote.config (.details ".") =
      some (.invalid "Invalid file ID: .") := by decide +kernel
  have hw := broken_off_of_refused hr (Option.some_ne_none _) ⟨[], []⟩
  exact ⟨hm, by decide +kernel, ha, (broken_off_of_disappointed hd).1.not_accounted _,
    by decide +kernel, (storage_refused hr _).1, hw.not_accounted _⟩

end Remote

end MediaGateway.Storage
