import MediaGateway.Proofs.Service.Response
import MediaGateway.Proofs.Service.Sending
import MediaGateway.Proofs.Storage.Placed

/-!
# Answers of another shape

An answer of success whose body is not of the documented shape cannot be decoded, and
the call fails for that, with one exception: a list may stand in for a record.
-/

namespace MediaGateway.Service

open Api (Rpc)
open Json (Written)
open Storage (Remote)

/-- An answer of success whose body is not of the shape that is documented for an operation makes the
operation fail because it cannot be decoded, and a call ends in the status of that failure, unless a
list stands in for a record that is due: its values stand in the order of the fields, each is null
or of the type of its field, and it may end early. In that case, and if the body is readable, the
operation has a result and the call ends in a response. -/
theorem misshapen_refused_unless_stood_in (answer : Http.Answer) :
    (∀ (remote : Remote) (state : Remote.State) (operation : Storage.Operation),
      operation.Reads → remote.Promised state operation answer →
        ¬operation.Documented answer.body →
          (¬operation.StoodIn answer.body →
            (remote.storage operation state).outcome = .failed Storage.undecodableFault) ∧
          (operation.StoodIn answer.body →
            (∀ written : Written, written.SpelledBy answer.body →
              written.Readable Json.deepest) →
            ∃ result, (remote.storage operation state).outcome = .done result)) ∧
    ∀ (settings : Settings) (remote : Remote) (took : Nat → Chain.Reading) (rpc : Rpc)
        (request : rpc.Request) (state : State Remote.State), Reached state →
      objection? rpc request = none → (operationOf rpc request).Reads →
        remote.Promised state.storage (operationOf rpc request) answer →
          ¬(operationOf rpc request).Documented answer.body →
            let ending := (call settings remote.storage took rpc request state).ending
            (¬(operationOf rpc request).StoodIn answer.body →
              ending = .answered (.error (faultStatus rpc Storage.undecodableFault))) ∧
            ((operationOf rpc request).StoodIn answer.body →
              (∀ written : Written, written.SpelledBy answer.body →
                written.Readable Json.deepest) →
              ∃ response, ending = .answered (.ok response)) := by
  have refused : ∀ (remote : Remote) (state : Remote.State) (operation : Storage.Operation),
      operation.Reads → remote.Promised state operation answer →
        ¬operation.Documented answer.body → ¬operation.StoodIn answer.body →
          (remote.storage operation state).outcome = .failed Storage.undecodableFault := by
    intro remote state operation reads promised misshapen apart
    refine promised.ends.2 fun result holds => ?_
    exact (Storage.shaped_of_holds reads holds).elim misshapen apart
  have decoded : ∀ (remote : Remote) (state : Remote.State) (operation : Storage.Operation),
      operation.Reads → remote.Promised state operation answer →
        operation.StoodIn answer.body → (∀ written : Written, written.SpelledBy answer.body →
          written.Readable Json.deepest) →
          ∃ result, (remote.storage operation state).outcome = .done result := by
    intro remote state operation reads promised stood readable
    obtain ⟨result, holds⟩ :=
      Storage.exists_holds_of_stoodIn reads promised.whole stood readable
    exact ⟨result, (promised.ends.1 result).mpr holds⟩
  refine ⟨fun remote state operation reads promised misshapen =>
    ⟨refused remote state operation reads promised misshapen,
      decoded remote state operation reads promised⟩, ?_⟩
  intro settings remote took rpc request state reached acceptable reads promised misshapen
  refine ⟨fun apart => ?_, fun stood readable => ?_⟩
  · exact (call_accepted settings remote took reached acceptable).2 _
      (refused remote _ _ reads promised misshapen apart)
  · obtain ⟨result, done⟩ := decoded remote _ _ reads promised stood readable
    exact ⟨_, call_of_done settings remote took reached acceptable done⟩

/-- A body that is neither a record nor a list is of no shape for a file. -/
theorem null_misshapen : ¬(Storage.Operation.details "a").Documented (Bytes.ofText "null") ∧
    ¬(Storage.Operation.details "a").StoodIn (Bytes.ofText "null") := by
  have hr : Written.read? (Bytes.ofText "null") = some .null := rfl
  constructor
  · rintro ⟨entries, spelled⟩
    cases hr.symm.trans (Json.read_eq_some_iff.mpr spelled)
  · rintro ⟨_, spelled, items, rfl, _⟩
    cases hr.symm.trans (Json.read_eq_some_iff.mpr spelled)

/-- A null in place of a file makes a call fail. -/
theorem null_refused :
    (Remote.answeringRemote (Bytes.ofText "null")).Promised ⟨[], []⟩ (.details "a")
        ⟨200, [], Bytes.ofText "null", .complete⟩ ∧
      ¬(Storage.Operation.details "a").Documented (Bytes.ofText "null") ∧
      ¬(Storage.Operation.details "a").StoodIn (Bytes.ofText "null") ∧
      ((Remote.answeringRemote (Bytes.ofText "null")).storage (.details "a") ⟨[], []⟩).outcome =
        .failed Storage.undecodableFault ∧
      (call (countingSettings true) (Remote.answeringRemote (Bytes.ofText "null")).storage
        (fun _ => 7) .getFileDetails ⟨"a"⟩ (.initial ⟨[], []⟩)).ending =
        .answered (.error (faultStatus .getFileDetails Storage.undecodableFault)) := by
  obtain ⟨misshapen, apart⟩ := null_misshapen
  have promised := Remote.answering_details (Bytes.ofText "null")
  obtain ⟨hs, hc⟩ := misshapen_refused_unless_stood_in ⟨200, [], Bytes.ofText "null", .complete⟩
  exact ⟨promised, misshapen, apart, (hs _ _ (.details "a") trivial promised misshapen).1 apart,
    (hc (countingSettings true) _ (fun _ => 7) .getFileDetails ⟨"a"⟩ (.initial ⟨[], []⟩)
      (.initial []) rfl trivial promised misshapen).1 apart⟩

/-- An empty list in place of a file makes a call succeed with a file of which nothing is known. -/
theorem empty_list_described :
    (Remote.answeringRemote (Bytes.ofText "[]")).Promised ⟨[], []⟩ (.details "a")
        ⟨200, [], Bytes.ofText "[]", .complete⟩ ∧
      ¬(Storage.Operation.details "a").Documented (Bytes.ofText "[]") ∧
      ((Remote.answeringRemote (Bytes.ofText "[]")).storage (.details "a") ⟨[], []⟩).outcome =
        .done StoredFile.blank ∧
      (call (countingSettings true) (Remote.answeringRemote (Bytes.ofText "[]")).storage
        (fun _ => 7) .getFileDetails ⟨"a"⟩ (.initial ⟨[], []⟩)).ending =
        .answered (.ok (Api.GetFileDetailsResponse.mk
          (some (Api.FileDetails.ofFile StoredFile.blank)) true "")) := by
  have promised := Remote.answering_details (Bytes.ofText "[]")
  have hf : Storage.readFile? (Bytes.ofText "[]") = some StoredFile.blank := by decide +kernel
  have done : ((Remote.answeringRemote (Bytes.ofText "[]")).storage (.details "a")
      ⟨[], []⟩).outcome = .done StoredFile.blank :=
    (promised.ends.1 StoredFile.blank).mpr ⟨rfl, hf⟩
  refine ⟨promised, ?_, done, ?_⟩
  · rintro ⟨entries, spelled⟩
    have hr : Written.read? (Bytes.ofText "[]") = some (.list []) := rfl
    cases hr.symm.trans (Json.read_eq_some_iff.mpr spelled)
  · exact call_of_done (countingSettings true) _ (fun _ => 7) (.initial []) rfl done

end MediaGateway.Service
