import MediaGateway.Proofs.Service.CallEvents
import MediaGateway.Proofs.Service.Sending
import MediaGateway.Proofs.Storage.UpdateBody

/-!
# Updates

A call that changes details of a file hands over what its request gives and nothing
else, and tells the names of it before it asks.
-/

namespace MediaGateway

open Storage (Remote)

namespace Service

open Api (UpdateFileDetailsRequest)

/-- What is told at the beginning of an update. -/
def updateEvent (request : UpdateFileDetailsRequest) : Event :=
  .info .storage "Updating file details" [("file_id", .text request.fileId),
    ("updates", .text (Text.quotedList request.toUpdate.fieldNames))]

/-- An update hands over a record for exactly the details that its request gives, and no other
request hands over the same unless it gives the same. Where paths can be put behind the base
address, every file has an address whose identifier is no dots. A call about a file with an address
tries one request with this body, and whatever its address is and whatever the provider does,
everything that a call sends hands over this body or nothing. The storage begins by telling the
names of what it hands over, with underscores in place of capitals. -/
theorem update_hands_over_given (settings : Settings) (request : UpdateFileDetailsRequest)
    (named : request.fileId ≠ "") :
    (∃ entries, Json.Value.read? (Bytes.ofText request.body) = some (.record entries) ∧
      request.Gives entries ∧
      (request.toUpdate.fieldNames.map fun told => String.ofList (camelCase told.toList)).Perm
        (entries.map Prod.fst)) ∧
    (∀ other : UpdateFileDetailsRequest, other.body = request.body ↔
      other.tags = request.tags ∧ other.customCoordinates = request.customCoordinates ∧
        other.customMetadata = request.customMetadata) ∧
    (∀ (config : StorageConfig) (api : Url), Url.TakesPath config.apiBaseUrl api →
      request.fileId ≠ "." → request.fileId ≠ ".." →
        ∃ place, Remote.fileAddress config request.fileId ["details"] = .ok place) ∧
    ∀ (remote : Remote) (took : Nat → Chain.Reading) (state : State Remote.State),
      Reached state →
        HandsOver remote .patch (.json request.body)
          (fun place => Remote.fileAddress remote.config request.fileId ["details"] = .ok place)
          state.storage.sent
          (call settings remote.storage took .updateFileDetails request
            state).state.storage.sent ∧
        (Event.comingFrom .storage (call settings remote.storage took .updateFileDetails request
          state).events).head? = some (updateEvent request) := by
  have accepted : objection? .updateFileDetails request = none := if_neg named
  refine ⟨⟨_, request.read_body, request.gives_entries, request.fieldNames_perm⟩,
    fun other => other.body_eq_iff request, fun config api takes dot dots => ?_,
    fun remote took state reached => ?_⟩
  · obtain ⟨own, _, found⟩ := Remote.fileAddress_eq takes
    exact ⟨_, found .details request.fileId ⟨dot, dots⟩⟩
  · have asks : remote.storage (operationOf .updateFileDetails request) state.storage =
        remote.ask (Remote.updateInquiry remote.config request.fileId request.toUpdate)
          state.storage := rfl
    constructor
    · exact call_handsOver settings remote took reached accepted asks
        (fun place found => Remote.fileRequest_found found .patch _)
        fun first ready => Remote.body_of_fileRequest ready
    · rw [call_stored settings (discreet_remote remote) took reached.metrics accepted, asks,
        Remote.head_events_ask]
      rfl

/-- A request with tags that have to be escaped, one of them twice, and with one fact. -/
def quotedUpdate : UpdateFileDetailsRequest where
  fileId := "a/b"
  tags := ["\"\\\n", "\u00fc", "\u00fc"]
  customCoordinates := ""
  customMetadata := .ofList [("k", "")]

/-- Where it is sent. -/
def quotedPlace : Url :=
  ⟨"http", some ⟨"[::1]", none⟩, .segments ["v1", "files", "a%2Fb", "details"], none, none⟩

/-- It is sent in two entries, once to a provider that keeps silent. -/
theorem quoted_update_handed_over :
    quotedUpdate.fileId ≠ "" ∧
      (∃ entries, Json.Value.read? (Bytes.ofText quotedUpdate.body) = some (.record entries) ∧
        entries.length = 2 ∧
        ("tags", .list [.text "\"\\\n", .text "\u00fc", .text "\u00fc"]) ∈ entries ∧
        ("customMetadata", .record [("k", .text "")]) ∈ entries) ∧
      (call (countingSettings true) Remote.silentRemote.storage (fun _ => 7) .updateFileDetails
        quotedUpdate (.initial ⟨[], []⟩)).state.storage.sent =
          [⟨.patch, quotedPlace, Remote.credential (.ofSettings (countingSettings true)),
            .json quotedUpdate.body⟩] := by
  have named : quotedUpdate.fileId ≠ "" := by decide
  have found : Remote.fileAddress Remote.silentRemote.config quotedUpdate.fileId ["details"] =
      .ok quotedPlace := by decide +kernel
  have sendable : Http.isSendable quotedPlace = true := by decide +kernel
  obtain ⟨⟨entries, reads, gives, told⟩, _, _, calls⟩ :=
    update_hands_over_given (countingSettings true) quotedUpdate named
  have length := told.length_eq
  rw [List.length_map, List.length_map] at length
  obtain ⟨hands, _⟩ := calls Remote.silentRemote (fun _ => 7) (.initial ⟨[], []⟩) (.initial [])
  have sent := (hands.tried quotedPlace found).of_silent (fun _ => rfl) sendable
  exact ⟨named, ⟨entries, reads, length.symm, (gives.tags _).mpr ⟨by decide, rfl⟩,
    (gives.customMetadata _).mpr ⟨by decide, rfl⟩⟩, sent⟩

end Service

end MediaGateway
