import MediaGateway.Proofs.Storage.Described
import MediaGateway.Proofs.Storage.Outcome

/-!
# Answers that promise a result

An answer that promises a result and came whole is read, or else the operation fails
because it cannot be decoded. Where the result is one file, it is the file that the
record in the body describes.
-/

namespace MediaGateway.Storage

open Json (Written)

/-- The failure of an operation whose answer cannot be decoded. -/
def undecodableFault : Fault :=
  .provider "Invalid provider response: error decoding response body" (some "DECODE")

/-- Operations whose result is one file. -/
def Operation.GivesFile : Operation → Prop
  | .upload _ => True
  | .details _ => True
  | .update _ _ => True
  | _ => False

/-- The file of a result, where it is one. -/
def Operation.file? : (operation : Operation) → operation.Result → Option StoredFile
  | .upload _, file => some file
  | .details _, file => some file
  | .update _ _, file => some file
  | _, _ => none

namespace Operation

/-- Every file is that of some result. -/
theorem GivesFile.exists_result {operation : Operation} (gives : operation.GivesFile)
    (file : StoredFile) : ∃ result, operation.file? result = some file := by
  cases operation with
  | upload content => exact ⟨file, rfl⟩
  | details fileId => exact ⟨file, rfl⟩
  | update fileId changes => exact ⟨file, rfl⟩
  | _ => exact gives.elim

/-- An answer holds the result whose file its body describes. -/
theorem GivesFile.holds_iff {operation : Operation} (gives : operation.GivesFile)
    {answer : Http.Answer} {result : operation.Result} :
    operation.Holds answer result ↔
      ∃ file, operation.file? result = some file ∧ Carries readFile? answer file := by
  have hs : ∀ file : StoredFile, Carries readFile? answer file ↔
      ∃ other, some file = some other ∧ Carries readFile? answer other := by
    simp only [Option.some.injEq, exists_eq_left', implies_true]
  cases operation with
  | upload content => exact hs result
  | details fileId => exact hs result
  | update fileId changes => exact hs result
  | _ => exact gives.elim

end Operation

/-- A body that writes a readable record describes a file exactly when the record is accepted, and
then the file is the one that the record describes. -/
theorem readFile_of_record {body : Bytes} {entries : List (Bytes × Written)}
    (spelled : (Written.record entries).SpelledBy body)
    (readable : (Written.record entries).Readable Json.deepest) :
    ∃ named, Named entries named ∧ ((∃ file, readFile? body = some file) ↔ Accepts named) ∧
      ∀ file, readFile? body = some file → Described named file := by
  obtain ⟨named, hn, within⟩ := exists_named readable
  have hr : readFile? body =
      ((Written.record entries).fields? fileFields).bind (fileOfFields? (Json.deepest - 1)) := by
    rw [readFile?, Json.read_eq_some_iff.mpr spelled, Option.bind_some]
    rfl
  obtain ⟨he, hd⟩ := describes_iff (Nat.sub_le Json.deepest 1) hn within
    (legible_of_named spelled.legible hn)
  rw [hr]
  exact ⟨named, hn, he, hd⟩

/-- An operation meets an answer of success that came whole. -/
structure Remote.Promised (remote : Remote) (state : Remote.State) (operation : Operation)
    (answer : Http.Answer) : Prop where
  /-- The operation asks, and this is what it meets. -/
  met : remote.Met state operation (.ok answer)
  /-- Its status promises a result. -/
  promised : operation.Promised answer.status
  /-- Its body came whole. -/
  whole : answer.bodyEnd = .complete

namespace Remote

/-- An operation that is promised a result has the one that the answer holds, and fails without
one because the answer cannot be decoded. -/
theorem Promised.ends {remote : Remote} {state : State} {operation : Operation}
    {answer : Http.Answer} (h : remote.Promised state operation answer) :
    (∀ result, (remote.storage operation state).outcome = .done result ↔
        operation.Holds answer result) ∧
      ((∀ result, ¬operation.Holds answer result) →
        (remote.storage operation state).outcome = .failed undecodableFault) := by
  have decided := (judged_of_met h.met).decided
  constructor
  · intro result
    rw [decided.done_iff]
    exact and_iff_right h.promised
  · intro vain
    rw [decided.unreadable h.promised vain, ← unreadFault_eq, h.whole]
    rfl

/-- A provider that answers every request with success and the same body. -/
def answeringRemote (body : Bytes) : Remote :=
  ⟨goneRemote.config, 0, fun _ => .answered ⟨200, [], body, .complete⟩⟩

/-- An operation with a request that can be sent meets the answer of that provider. -/
theorem answering_met (body : Bytes) {operation : Operation} {inquiry : Inquiry operation.Result}
    (hr : refusal? goneRemote.config operation = none)
    (hi : inquiry? goneRemote.config operation = some inquiry) {request : Http.Request}
    (hq : inquiry.request = .ready request) (hs : Http.isSendable request.url = true) :
    (answeringRemote body).Met ⟨[], []⟩ operation (.ok ⟨200, [], body, .complete⟩) := by
  refine ⟨hr, inquiry, hi, ?_⟩
  rw [hq]
  exact Prepared.meets_of_answered hs rfl rfl

/-- That provider promises the description of a file. -/
theorem answering_details (body : Bytes) :
    (answeringRemote body).Promised ⟨[], []⟩ (.details "a") ⟨200, [], body, .complete⟩ :=
  ⟨answering_met body rfl rfl rfl (by decide), ⟨Nat.le_refl 200, (by decide : 200 < 300)⟩, rfl⟩

end Remote

end MediaGateway.Storage
