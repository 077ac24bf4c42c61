import MediaGateway.Proofs.Storage.FileAddress
import MediaGateway.Proofs.Storage.Operation

/-!
# Where operations are asked

Behind usable base addresses every operation that is not refused has a request of
its own: its method, its place and the credential follow from the operation and
the setup. Requests can go to every such place but one whose text is too long.
-/

namespace MediaGateway

namespace Url

/-- The place of a path behind the address that a text writes. -/
def behind (text : String) (base : Url) (names : List String) : Url :=
  match base.path with
  | .segments own => { base with path := .segments (trunk text.toList own ++ names) }
  | .plain _ => base

/-- A path behind a text that takes one is read as the place behind its address. -/
theorem read_eq_behind {text : String} {base : Url} (h : TakesPath text base) {names : List String}
    (hn : names ≠ []) (hl : ∀ name ∈ names, isLiteral name = true) :
    read (text ++ pathText names) = .ok (behind text base names) := by
  obtain ⟨own, hp, hr⟩ := read_behind h hn hl
  rw [hr, behind, hp]

/-- A place behind an address is on the same host. -/
theorem behind_host (text : String) (base : Url) (names : List String) :
    (behind text base names).scheme = base.scheme ∧
      (behind text base names).authority = base.authority := by
  rw [behind]
  split <;> exact ⟨rfl, rfl⟩

/-- Pairs in the query leave the host as it is. -/
theorem withPairs_host (url : Url) (pairs : List Form.Pair) :
    (url.withPairs pairs).scheme = url.scheme ∧
      (url.withPairs pairs).authority = url.authority := by
  rw [withPairs]
  split <;> exact ⟨rfl, rfl⟩

/-- The text of a path is at least as long as each of its segments. -/
theorem length_le_pathText {names : List String} {name : String} (h : name ∈ names) :
    name.length ≤ (pathText names).length := by
  rw [← String.length_toList, ← String.length_toList, pathText_toList, pathChars]
  obtain ⟨front, back, rfl⟩ := List.append_of_mem h
  simp only [List.flatMap_append, List.flatMap_cons, List.length_append, List.length_cons]
  omega

/-- The text of an address with a host is at least as long as that of its path. -/
theorem pathText_length_le {url : Url} {authority : Authority}
    (ha : url.authority = some authority) : url.path.text.length ≤ url.text.length := by
  simp only [text, placeText, ha, String.length_append]
  omega

/-- The text of a place behind an address is at least as long as each of its last segments. -/
theorem length_le_behind {text : String} {base : Url} {own : List String}
    (hp : base.path = .segments own) {authority : Authority}
    (ha : base.authority = some authority) {names : List String} {name : String}
    (h : name ∈ names) : name.length ≤ (behind text base names).text.length := by
  have hl : name.length ≤ (behind text base names).path.text.length := by
    simp only [behind, hp, Path.text]
    exact length_le_pathText (List.mem_append_right _ h)
  exact Nat.le_trans hl (pathText_length_le ((behind_host text base names).2.trans ha))

end Url

namespace Http

/-- On a host that requests can go to, a text that is too long is all that keeps them from a
place. -/
theorem isSendable_iff {known place : Url}
    (same : place.scheme = known.scheme ∧ place.authority = known.authority)
    (h : isSendable known = true) :
    isSendable place = true ↔ place.text.length ≤ longestAddress := by
  simp only [isSendable, isWebAddress, isWeb, Url.hasHost, same.1, same.2, Bool.and_eq_true,
    decide_eq_true_eq] at h ⊢
  exact ⟨fun hs => hs.1.2, fun hl => ⟨⟨h.1.1, hl⟩, h.2⟩⟩

end Http

namespace Storage

/-- The method that an operation is asked with. -/
def Operation.method : Operation → Http.Method
  | .upload _ => .post
  | .update _ _ => .patch
  | .delete _ => .delete
  | .deleteAll _ => .post
  | _ => .get

namespace Remote

open Url (TakesPath behind wholeSegment)

/-- The path that uploads go to. -/
def uploadPath : List String := ["api", "v1", "files", "upload"]

/-- The path that batches go to. -/
def batchPath : List String := ["v1", "files", "batch", "deleteByFileIds"]

/-- A setup whose base addresses can be used: paths can be put behind both, and requests can go to
the places that do not depend on what is asked. -/
structure Usable (config : StorageConfig) (api upload : Url) : Prop where
  /-- The base address of the provider takes paths. -/
  apiTakes : TakesPath config.apiBaseUrl api
  /-- The base address for uploads takes paths. -/
  uploadTakes : TakesPath config.uploadBaseUrl upload
  /-- Requests can go to the place of batches. -/
  batchPlace : Http.isSendable (behind config.apiBaseUrl api batchPath) = true
  /-- Requests can go to the place of uploads. -/
  uploadPlace : Http.isSendable (behind config.uploadBaseUrl upload uploadPath) = true

/-- The place that an operation is asked at. That of a file is its own segment behind all files,
where the identifier holds no tabs and no ends of lines. -/
def At (config : StorageConfig) (api upload : Url) : Operation → Url → Prop
  | .credential, _ => False
  | .upload _, place => place = behind config.uploadBaseUrl upload uploadPath
  | .details fileId, place => Unbroken fileId →
    place = behind config.apiBaseUrl api ["v1", "files", wholeSegment fileId, "details"]
  | .list query, place =>
    place = (behind config.apiBaseUrl api ["v1", "files"]).withPairs (queryPairs query)
  | .delete fileId, place => Unbroken fileId →
    place = behind config.apiBaseUrl api ["v1", "files", wholeSegment fileId]
  | .deleteAll _, place => place = behind config.apiBaseUrl api batchPath
  | .update fileId _, place => Unbroken fileId →
    place = behind config.apiBaseUrl api ["v1", "files", wholeSegment fileId, "details"]

/-- The request of an operation: its method and place, and the private key with an empty
password. -/
structure Own (config : StorageConfig) (api upload : Url) (operation : Operation)
    (request : Http.Request) : Prop where
  /-- The method is that of the operation. -/
  method : request.method = operation.method
  /-- The place is that of the operation. -/
  place : At config api upload operation request.url
  /-- The credential is the private key. -/
  credential : request.authorization =
    some ("Basic " ++ Base64.encode (Bytes.ofText (config.privateKey ++ ":")))

/-- A request that is ready, and goes to any place on its host that is not too long. -/
structure Ready (config : StorageConfig) (api upload : Url) (operation : Operation)
    (prepared : Prepared) (request : Http.Request) : Prop where
  /-- It is ready. -/
  ready : prepared = .ready request
  /-- It is the operation's. -/
  own : Own config api upload operation request
  /-- It can be sent unless its address is too long. -/
  sendable : Http.isSendable request.url = true ↔
    request.url.text.length ≤ Http.longestAddress

/-- A host that requests can go to is one. -/
theorem hasHost_of_sendable {known place : Url}
    (same : place.authority = known.authority) (h : Http.isSendable known = true) :
    place.hasHost = true := by
  simp only [Http.isSendable, Http.isWebAddress, Bool.and_eq_true] at h
  simp only [Url.hasHost, same]
  exact h.1.1.2

/-- The text of a place behind the base address of the provider is at least as long as each of its
last segments. -/
theorem Usable.length_le {config : StorageConfig} {api upload : Url}
    (usable : Usable config api upload) {names : List String} {name : String} (h : name ∈ names) :
    name.length ≤ (behind config.apiBaseUrl api names).text.length := by
  obtain ⟨own, hp, _⟩ := fileAddress_eq usable.apiTakes
  have hh := hasHost_of_sendable (Url.behind_host config.apiBaseUrl api batchPath).2.symm
    usable.batchPlace
  rw [Url.hasHost] at hh
  split at hh
  next authority ha => exact Url.length_le_behind hp ha h
  next => cases hh

/-- A request to a place that is written behind a base address is ready. -/
theorem textRequest_behind (config : StorageConfig) {text : String} {base : Url}
    (takes : TakesPath text base) {names known : List String} (hn : names ≠ [])
    (hl : ∀ name ∈ names, Url.isLiteral name = true)
    (h : Http.isSendable (behind text base known) = true) (method : Http.Method)
    (pairs : List Url.Form.Pair) (body : Http.Body) :
    let place := if pairs = [] then behind text base names
      else (behind text base names).withPairs pairs
    textRequest config method (text ++ Url.pathText names) pairs body =
        .ready ⟨method, place, credential config, body⟩ ∧
      (Http.isSendable place = true ↔ place.text.length ≤ Http.longestAddress) := by
  have hs : (behind text base names).scheme = (behind text base known).scheme ∧
      (behind text base names).authority = (behind text base known).authority := by
    simp only [Url.behind_host, and_self]
  have hh := hasHost_of_sendable hs.2 h
  refine ⟨?_, Http.isSendable_iff ?_ h⟩
  · simp only [textRequest, Url.read_eq_behind takes hn hl, hh, if_true]
  · split
    · exact hs
    · simp only [Url.withPairs_host, Url.behind_host, and_self]

/-- An identifier whose address is not refused is no dots. -/
theorem not_dots_of_addressRefusal {config : StorageConfig} {fileId : String} {about : List String}
    (h : addressRefusal? config fileId about = none) : fileId ≠ "." ∧ fileId ≠ ".." := by
  have hd : ¬(fileId = "." ∨ fileId = "..") := by
    intro hd
    rw [addressRefusal?, fileAddress, if_pos hd] at h
    cases h
  exact ⟨fun h => hd (.inl h), fun h => hd (.inr h)⟩

/-- Behind a usable base address dots alone are refused, as unacceptable. -/
theorem addressRefusal_eq {config : StorageConfig} {api : Url}
    (takes : TakesPath config.apiBaseUrl api) (call : FileCall) (fileId : String) :
    addressRefusal? config fileId call.about =
      if fileId = "." ∨ fileId = ".." then some (.invalid ("Invalid file ID: " ++ fileId))
      else none := by
  obtain ⟨own, _, ha⟩ := fileAddress_eq takes
  rw [addressRefusal?]
  split
  next fault hf =>
    by_cases hd : fileId = "." ∨ fileId = ".."
    · rw [fileAddress, if_pos hd] at hf
      rw [if_pos hd, Except.error.inj hf]
    · rw [ha call fileId ⟨fun h => hd (.inl h), fun h => hd (.inr h)⟩] at hf
      cases hf
  next place hf =>
    rw [if_neg]
    intro hd
    rw [fileAddress, if_pos hd] at hf
    cases hf

/-- A request about a file that is no dots is ready. Its place is that of the file, where the
identifier holds no tabs and no ends of lines. -/
theorem fileRequest_behind {config : StorageConfig} {api : Url}
    (takes : TakesPath config.apiBaseUrl api) {known : List String}
    (h : Http.isSendable (behind config.apiBaseUrl api known) = true) (call : FileCall)
    {fileId : String} (hd : fileId ≠ "." ∧ fileId ≠ "..") (method : Http.Method)
    (body : Http.Body) :
    ∃ place, fileRequest config method fileId call.about body =
        .ready ⟨method, place, credential config, body⟩ ∧
      (Unbroken fileId → place = behind config.apiBaseUrl api
        (["v1", "files", wholeSegment fileId] ++ call.about)) ∧
      (Http.isSendable place = true ↔ place.text.length ≤ Http.longestAddress) := by
  obtain ⟨own, hp, ha⟩ := fileAddress_eq takes
  refine ⟨filePlace config api own fileId call, ?_, ?_, Http.isSendable_iff ?_ h⟩
  · rw [fileRequest, ha call fileId hd]
    rfl
  · intro hu
    rw [filePlace, filePath_of_not_dots config own (isDots_of_unbroken hd hu), behind, hp, allFiles,
      List.append_assoc]
    rfl
  · simp only [filePlace, Url.behind_host, and_self]

/-- The address of a path behind the base address of the provider. -/
theorem apiAddress_eq (config : StorageConfig) {path : String} {names : List String}
    (h : "/v1/" ++ path = Url.pathText names) :
    apiAddress config path = config.apiBaseUrl ++ Url.pathText names := by
  rw [apiAddress, String.append_assoc, h]

/-- The address that pages come from. -/
theorem listAddress_eq (config : StorageConfig) :
    apiAddress config "files" = config.apiBaseUrl ++ Url.pathText ["v1", "files"] :=
  apiAddress_eq config (by decide)

/-- The address that batches go to. -/
theorem batchAddress_eq (config : StorageConfig) :
    apiAddress config "files/batch/deleteByFileIds" =
      config.apiBaseUrl ++ Url.pathText batchPath :=
  apiAddress_eq config (by decide)

/-- Every operation that is not refused has its own request ready, unless it issues a credential. -/
theorem exists_ready {config : StorageConfig} {api upload : Url}
    (usable : Usable config api upload) {operation : Operation}
    {inquiry : Inquiry operation.Result} (hr : refusal? config operation = none)
    (hi : inquiry? config operation = some inquiry) :
    ∃ request, Ready config api upload operation inquiry.request request := by
  have hf : ∀ (call : FileCall) fileId method body,
      addressRefusal? config fileId call.about = none →
        ∃ place, fileRequest config method fileId call.about body =
            .ready ⟨method, place, credential config, body⟩ ∧
          (Unbroken fileId → place = behind config.apiBaseUrl api
            (["v1", "files", wholeSegment fileId] ++ call.about)) ∧
          (Http.isSendable place = true ↔ place.text.length ≤ Http.longestAddress) :=
    fun call fileId method body h => fileRequest_behind usable.apiTakes usable.batchPlace call
      (not_dots_of_addressRefusal h) method body
  cases operation with
  | credential => cases hi
  | upload content =>
    obtain rfl := Option.some.inj hi
    obtain ⟨hq, hs⟩ := textRequest_behind config usable.uploadTakes (by decide : uploadPath ≠ [])
      (by decide : ∀ name ∈ uploadPath, Url.isLiteral name = true) usable.uploadPlace .post []
      (.form (uploadParts content))
    exact ⟨_, hq, ⟨rfl, rfl, rfl⟩, hs⟩
  | list query =>
    obtain rfl := Option.some.inj hi
    have hn : queryPairs query ≠ [] := by simp [queryPairs]
    have hq := textRequest_behind config usable.apiTakes (List.cons_ne_nil "v1" ["files"])
      (by decide) usable.batchPlace .get (queryPairs query) .empty
    rw [if_neg hn, ← listAddress_eq config] at hq
    exact ⟨_, hq.1, ⟨rfl, rfl, rfl⟩, hq.2⟩
  | deleteAll fileIds =>
    obtain rfl := Option.some.inj hi
    have hq := textRequest_behind config usable.apiTakes (by decide : batchPath ≠ [])
      (by decide : ∀ name ∈ batchPath, Url.isLiteral name = true) usable.batchPlace .post []
      (.json (batchBody fileIds))
    rw [if_pos rfl, ← batchAddress_eq config] at hq
    exact ⟨_, hq.1, ⟨rfl, rfl, rfl⟩, hq.2⟩
  | details fileId =>
    obtain rfl := Option.some.inj hi
    obtain ⟨place, hq, hp, hs⟩ := hf .details fileId .get .empty hr
    exact ⟨_, hq, ⟨rfl, hp, rfl⟩, hs⟩
  | delete fileId =>
    obtain rfl := Option.some.inj hi
    obtain ⟨place, hq, hp, hs⟩ := hf .delete fileId .delete .empty hr
    exact ⟨_, hq, ⟨rfl, hp, rfl⟩, hs⟩
  | update fileId changes =>
    obtain rfl := Option.some.inj hi
    obtain ⟨place, hq, hp, hs⟩ := hf (.update changes) fileId .patch (.json (updateBody changes)) hr
    exact ⟨_, hq, ⟨rfl, hp, rfl⟩, hs⟩

end Remote

end Storage

end MediaGateway
