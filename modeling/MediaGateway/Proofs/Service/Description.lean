import MediaGateway.Proofs.Json.Range
import MediaGateway.Proofs.Service.Response
import MediaGateway.Proofs.Service.Sending
import MediaGateway.Proofs.Storage.Answered

/-!
# Files as the provider describes them

A call for one file that is answered with a record shows the file that the record
describes, if each field stands there once at most and holds nothing or a value of
its type; and it fails because the answer cannot be decoded in every other case.
-/

namespace MediaGateway

open Json (Written)

namespace Storage

/-- How an operation ends whose answer holds a record: with the file that the record describes, if
it is accepted, and else because the answer cannot be decoded. -/
structure FromRecord (named : List (String × Written)) (operation : Operation)
    (outcome : Outcome operation.Result) : Prop where
  /-- There is a result exactly when the record is accepted. -/
  done_iff : (∃ result, outcome = .done result) ↔ Accepts named
  /-- The result is the file that the record describes. -/
  described : ∀ result, outcome = .done result →
    ∃ file, operation.file? result = some file ∧ Described named file
  /-- There is one reason to fail. -/
  failed : ¬Accepts named → outcome = .failed undecodableFault

/-- The record in a body decides how an operation ends that is promised a file. -/
theorem Remote.Promised.fromRecord {remote : Remote} {state : Remote.State}
    {operation : Operation} {answer : Http.Answer} (h : remote.Promised state operation answer)
    (gives : operation.GivesFile) {named : List (String × Written)}
    (reads : (∃ file, readFile? answer.body = some file) ↔ Accepts named)
    (describes : ∀ file, readFile? answer.body = some file → Described named file) :
    FromRecord named operation (remote.storage operation state).outcome := by
  obtain ⟨hd, hf⟩ := h.ends
  have hr : (∃ result, operation.Holds answer result) ↔ Accepts named := by
    rw [← reads]
    constructor
    · rintro ⟨result, holds⟩
      obtain ⟨file, _, _, hb⟩ := gives.holds_iff.mp holds
      exact ⟨file, hb⟩
    · rintro ⟨file, hb⟩
      obtain ⟨result, hs⟩ := gives.exists_result file
      exact ⟨result, gives.holds_iff.mpr ⟨file, hs, h.whole, hb⟩⟩
  refine ⟨by simp only [hd, hr], fun result done => ?_, fun na => hf fun result holds => ?_⟩
  · obtain ⟨file, hs, _, hb⟩ := gives.holds_iff.mp ((hd result).mp done)
    exact ⟨file, hs, describes file hb⟩
  · exact na (hr.mp ⟨result, holds⟩)

end Storage

namespace Service

open Api (Rpc)
open Storage (Remote)

/-- The response for a file shows it. -/
theorem showsFile_responseOf (publicKey : String) {rpc : Rpc} {request : rpc.Request}
    {result : (operationOf rpc request).Result} {file : StoredFile}
    (h : (operationOf rpc request).file? result = some file) :
    rpc.ShowsFile (responseOf publicKey rpc request result) file := by
  cases rpc with
  | uploadFile =>
    obtain rfl := Option.some.inj h
    exact ⟨rfl, rfl, _, rfl, Api.FileDetails.shows_ofFile _⟩
  | getFileDetails =>
    obtain rfl := Option.some.inj h
    exact ⟨rfl, rfl, _, rfl, Api.FileDetails.shows_ofFile _⟩
  | updateFileDetails =>
    obtain rfl := Option.some.inj h
    exact ⟨rfl, rfl, _, rfl, Api.FileDetails.shows_ofFile _⟩
  | _ => cases h

/-- A record in an answer of success decides how an operation for one file ends, and how a call ends
that asks for it. The operation has a result exactly when each field stands in the record once at
most and holds nothing or a value of its type; then the result, and the response field by field, is
the file that the record describes. Otherwise both fail because the answer cannot be decoded. The
record has to be readable: its strings stand for texts, it is not nested too deep, and its numbers
are in range, as all are that come to 10 ^ 308 at most. -/
theorem record_shown (answer : Http.Answer) {entries : List (Bytes × Written)}
    (spelled : (Written.record entries).SpelledBy answer.body)
    (readable : (Written.record entries).Readable Json.deepest) :
    (∀ numeral : Json.Numeral, numeral.AtMost (tens 308) → numeral.InRange) ∧
    ∃ named, Storage.Named entries named ∧
      (∀ (remote : Remote) (state : Remote.State) (operation : Storage.Operation),
        operation.GivesFile → remote.Promised state operation answer →
          Storage.FromRecord named operation (remote.storage operation state).outcome) ∧
      ∀ (settings : Settings) (remote : Remote) (took : Nat → Chain.Reading) (rpc : Rpc)
          (request : rpc.Request) (state : State Remote.State), Reached state →
        objection? rpc request = none → (operationOf rpc request).GivesFile →
          remote.Promised state.storage (operationOf rpc request) answer →
            let ending := (call settings remote.storage took rpc request state).ending
            (Storage.Accepts named → ∃ file response, Storage.Described named file ∧
                ending = .answered (.ok response) ∧ rpc.ShowsFile response file) ∧
              (¬Storage.Accepts named →
                ending = .answered (.error (faultStatus rpc Storage.undecodableFault))) := by
  obtain ⟨named, hn, hr, hd⟩ := Storage.readFile_of_record spelled readable
  refine ⟨fun _ => Json.inRange_of_atMost, named, hn,
    fun remote state operation gives promised => promised.fromRecord gives hr hd, ?_⟩
  intro settings remote took rpc request state reached acceptable gives promised
  have decided := promised.fromRecord gives hr hd
  constructor
  · intro accepts
    obtain ⟨result, done⟩ := decided.done_iff.mpr accepts
    obtain ⟨file, hs, described⟩ := decided.described result done
    exact ⟨file, _, described, call_of_done settings remote took reached acceptable done,
      showsFile_responseOf settings.ikPublicKey hs⟩
  · intro na
    exact (call_accepted settings remote took reached acceptable).2 _ (decided.failed na)

/-- A record with one entry describes a file when its value may stand in the field of its name. -/
theorem accepts_single {name : String} {value : Written}
    (h : ∀ shape ∈ Storage.fileShapes, name ∈ shape.1 → shape.2 value) :
    Storage.Accepts [(name, value)] := by
  intro shape member
  refine ⟨Nat.le_trans (List.length_filter_le _ _) (Nat.le_refl 1), fun entry only named => ?_⟩
  obtain rfl := List.mem_singleton.mp only
  exact .inr (h shape member named)

/-- What stands between the quotes of a text. -/
def quotedText (text : String) : Written := .quoted (Json.insideOctets text.toList)

/-- A record that gives a file a name, the address of a small picture under its other name, a path
and further facts. -/
def pictureRecord : List (String × Written) :=
  [("name", quotedText "b.png"), ("thumbnail", quotedText "t.png"),
    ("filePath", quotedText "/a/b.png"),
    ("customMetadata", .record [
      (Json.insideOctets "size".toList, .list [.numeral ⟨false, [1], [], none⟩]),
      (Json.insideOctets "color".toList, quotedText "red")])]

/-- Its entries as they are written. -/
def pictureEntries : List (Bytes × Written) :=
  pictureRecord.map fun entry => (Json.insideOctets entry.1.toList, entry.2)

/-- A body with that record. -/
def pictureBody : Bytes := Bytes.ofText
  "\x7b\"name\": \"b.png\", \"thumbnail\": \"t.png\", \"filePath\": \"/a/b.png\",
    \"customMetadata\": \x7b\"size\": [1], \"color\": \"red\"\x7d\x7d"

/-- The file that the record describes. -/
def pictureFile : StoredFile :=
  { StoredFile.blank with
    name := "b.png", thumbnailUrl := "t.png", folderPath := "/a/",
    customMetadata := TextMap.ofList [("color", "red"), ("size", "[1]")] }

/-- The record is accepted, and a call shows the file that it describes. -/
theorem picture_shown :
    (Written.record pictureEntries).SpelledBy pictureBody ∧
      (Written.record pictureEntries).Readable Json.deepest ∧
      Storage.Named pictureEntries pictureRecord ∧ Storage.Accepts pictureRecord ∧
      Storage.Described pictureRecord pictureFile ∧
      ∃ (response : Api.GetFileDetailsResponse) (details : Api.FileDetails),
        (call (countingSettings true) (Remote.answeringRemote pictureBody).storage (fun _ => 7)
          .getFileDetails ⟨"a"⟩ (.initial ⟨[], []⟩)).ending = .answered (.ok response) ∧
        response.file = some details ∧ details.name = "b.png" ∧
        details.thumbnailUrl = "t.png" ∧ details.folderPath = "/a/" ∧
        details.customMetadata.entries = [("color", "red"), ("size", "[1]")] := by
  have isText : ∀ text : String, Json.IsText (Json.insideOctets text.toList) :=
    fun text => ⟨_, Json.stands_insideOctets text.toList⟩
  have spelled : (Written.record pictureEntries).SpelledBy pictureBody := by
    rw [← Json.read_eq_some_iff]
    rfl
  have readable : (Written.record pictureEntries).Readable Json.deepest := by
    have one : (⟨false, [1], [], none⟩ : Json.Numeral).InRange :=
      Json.inRange_of_atMost (by decide +kernel)
    simp only [pictureEntries, pictureRecord, quotedText, List.map_cons, List.map_nil,
      Written.Readable, Json.deepest, List.forall_mem_cons, isText, one]
    simp only [List.not_mem_nil, false_imp_iff, implies_true, and_self]
  obtain ⟨_, named, hn, fromRecord, hc⟩ :=
    record_shown ⟨200, [], pictureBody, .complete⟩ spelled readable
  have stands : Storage.Named pictureEntries pictureRecord :=
    List.forall₂_map_left_iff.mpr
      (List.forall₂_same.mpr fun entry _ => ⟨Json.stands_insideOctets _, rfl⟩)
  obtain rfl : named = pictureRecord := Option.some.inj
    ((Storage.namedEntries_of_named hn).symm.trans (Storage.namedEntries_of_named stands))
  have promised := Remote.answering_details pictureBody
  have reads : Storage.readFile? pictureBody = some pictureFile := by decide +kernel
  have done := (promised.ends.1 pictureFile).mpr ⟨rfl, reads⟩
  have decided := fromRecord _ _ (.details "a") trivial promised
  have accepts := decided.done_iff.mp ⟨_, done⟩
  obtain ⟨file, hf, described⟩ := decided.described _ done
  obtain rfl : pictureFile = file := Option.some.inj hf
  obtain ⟨_, response, _, ends, _, _, details, hd, _⟩ :=
    (hc (countingSettings true) _ (fun _ => 7) .getFileDetails ⟨"a"⟩ (.initial ⟨[], []⟩)
      (.initial []) rfl trivial promised).1 accepts
  have responds := call_of_done (countingSettings true) _ (fun _ => 7) (.initial [])
    (rfl : objection? .getFileDetails ⟨"a"⟩ = none) done
  obtain rfl := Except.ok.inj (Chain.Ending.answered.inj (responds.symm.trans ends))
  obtain rfl := Option.some.inj hd
  exact ⟨spelled, readable, stands, accepts, described, _, _, ends, rfl, rfl, rfl, rfl, rfl⟩

/-- A number that is written with more digits than it needs, and is no larger than the largest of
double precision. -/
def edgeNumeral : Json.Numeral :=
  ⟨false, [1], [7, 9, 7, 6, 9, 3, 1, 3, 4, 8, 6, 2, 3, 1, 5, 7, 0, 0], some (false, [3, 0, 8])⟩

/-- A body that gives a file that number. -/
def edgeBody : Bytes := Bytes.ofText
  "\x7b\"customMetadata\":\x7b\"a\":1.797693134862315700e308\x7d\x7d"

/-- A record may be accepted and its numbers be no larger than the largest of double precision, and
still the answer cannot be decoded: the digits of a number and its power of ten are rounded one
after the other, and for this number that leads beyond. -/
theorem edge_refused :
    ∃ entries named, (Written.record entries).SpelledBy edgeBody ∧ Storage.Named entries named ∧
      entries = [(Json.insideOctets "customMetadata".toList,
        .record [(Json.insideOctets "a".toList, .numeral edgeNumeral)])] ∧
      edgeNumeral.AtMost (Nat.pow 2 1024 - Nat.pow 2 971) ∧ Storage.Accepts named ∧
      (Remote.answeringRemote edgeBody).Promised ⟨[], []⟩ (.details "a")
        ⟨200, [], edgeBody, .complete⟩ ∧
      ((Remote.answeringRemote edgeBody).storage (.details "a") ⟨[], []⟩).outcome =
        .failed Storage.undecodableFault := by
  have promised := Remote.answering_details edgeBody
  have hn : Storage.readFile? edgeBody = none := by decide +kernel
  refine ⟨_, [("customMetadata", .record [(Json.insideOctets "a".toList, .numeral edgeNumeral)])],
    ?_, ?_, rfl, by decide +kernel, ?_, promised, promised.ends.2 fun result holds => ?_⟩
  · rw [← Json.read_eq_some_iff]
    rfl
  · exact .cons ⟨Json.stands_insideOctets _, rfl⟩ .nil
  · refine accepts_single fun shape member named => ?_
    have hq : shape.2 = Storage.IsRecord := by
      revert shape
      simp [Storage.fileShapes]
    rw [hq]
    exact ⟨_, rfl⟩
  · cases hn.symm.trans holds.2

end Service

end MediaGateway
