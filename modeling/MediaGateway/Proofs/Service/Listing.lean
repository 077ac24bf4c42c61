import MediaGateway.Proofs.Service.Response
import MediaGateway.Proofs.Service.Sending
import MediaGateway.Proofs.Storage.Listed
import MediaGateway.Proofs.Storage.Pairs
import MediaGateway.Proofs.Storage.Total
import MediaGateway.Proofs.Url.Form

/-!
# Pages of files

A call for a page of files asks the provider with the pairs of its request, which are
read back from the query as they are, and shows one file for each item of the answer
in order. The number of files in all is the one that the answer states, or else that
of the page, as far as it fits in 32 bits.
-/

namespace MediaGateway

open Json (Written)
open Storage (Remote)

/-- A query whose page is right is left as it is. -/
theorem ListQuery.normalized_eq_self {query : ListQuery} (limit : ¬query.limit ≤ 0)
    (skip : ¬query.skip < 0) : query.normalized = query := by
  rw [normalized, if_neg limit, if_neg skip]

/-- The page of a query that was put right is. -/
theorem ListQuery.normalized_page (query : ListQuery) :
    ¬query.normalized.limit ≤ 0 ∧ ¬query.normalized.skip < 0 := by
  simp only [normalized]
  constructor
  · split
    next => decide
    next positive => exact positive
  · split
    next => decide
    next natural => exact natural

/-- Putting the page of a query right twice is the same as doing it once. -/
theorem ListQuery.normalized_normalized (query : ListQuery) :
    query.normalized.normalized = query.normalized :=
  normalized_eq_self query.normalized_page.1 query.normalized_page.2

/-- The pairs of a request for a page: where it begins, how long it is at most, and what the request
does not leave empty. -/
def Api.GetFilesRequest.pairs (request : Api.GetFilesRequest) : List Url.Form.Pair :=
  [("skip", toString (max request.skip.toInt 0)),
    ("limit", toString (if 0 < request.limit.toInt then request.limit.toInt else 1000))]
    ++ given "searchQuery" request.searchQuery
    ++ (if request.tags = [] then [] else [("tags", String.intercalate "," request.tags)])
    ++ given "type" request.fileType ++ given "fileType" request.fileType
    ++ given "sort" request.sort
    ++ given "path" request.path

/-- Nothing less than nothing is skipped. -/
theorem normalized_skip (query : ListQuery) :
    query.normalized.skip.toInt = max query.skip.toInt 0 := by
  have hz : (0 : Int32).toInt = 0 := rfl
  by_cases h : query.skip < 0
  · have hn : query.normalized.skip = 0 := if_pos h
    rw [Int32.lt_iff_toInt_lt, hz] at h
    rw [hn, hz]
    omega
  · have hn : query.normalized.skip = query.skip := if_neg h
    rw [Int32.lt_iff_toInt_lt, hz] at h
    rw [hn]
    omega

/-- A limit that is not positive is the default one. -/
theorem normalized_limit (query : ListQuery) :
    query.normalized.limit.toInt = if 0 < query.limit.toInt then query.limit.toInt else 1000 := by
  have hz : (0 : Int32).toInt = 0 := rfl
  by_cases h : query.limit ≤ 0
  · have hn : query.normalized.limit = 1000 := if_pos h
    rw [Int32.le_iff_toInt_le, hz] at h
    rw [hn, if_neg (by omega)]
    rfl
  · have hn : query.normalized.limit = query.limit := if_neg h
    rw [Int32.le_iff_toInt_le, hz] at h
    rw [hn, if_pos (by omega)]

/-- The storage is asked with the pairs of the request. -/
theorem queryPairs_eq (request : Api.GetFilesRequest) :
    Remote.queryPairs request.toQuery.normalized = request.pairs := by
  rw [Remote.queryPairs, normalized_skip, normalized_limit]
  simp only [Api.GetFilesRequest.pairs, ← pairOf_presentText, ← pairOf_presentList]
  rfl

/-- The tags are the value of one pair, with commas between them. -/
theorem tags_of_mem_pairs {request : Api.GetFilesRequest} {value : String}
    (h : ("tags", value) ∈ request.pairs) :
    request.tags ≠ [] ∧ value = String.intercalate "," request.tags := by
  have hg : ∀ name other : String, name ≠ "tags" → ("tags", value) ∉ given name other := by
    intro name other hn
    rw [given]
    split
    · exact List.not_mem_nil
    · rw [List.mem_singleton]
      exact fun he => hn (Prod.ext_iff.mp he).1.symm
  simp only [Api.GetFilesRequest.pairs, List.mem_append, hg _ _ (by decide : "searchQuery" ≠ "tags"),
    hg _ _ (by decide : "type" ≠ "tags"), hg _ _ (by decide : "fileType" ≠ "tags"),
    hg _ _ (by decide : "sort" ≠ "tags"), hg _ _ (by decide : "path" ≠ "tags"), or_false] at h
  rcases h with h | h
  · simp at h
  · split at h
    · cases h
    next present =>
      exact ⟨present, (Prod.ext_iff.mp (List.mem_singleton.mp h)).2⟩

/-- A count in 32 bits. -/
structure Narrows (count : Int) (shown : Int32) : Prop where
  /-- It is shown as it is when it fits. -/
  fits : -Int.pow 2 31 ≤ count → count < Int.pow 2 31 → shown.toInt = count
  /-- Else the largest number is shown. -/
  beyond : ¬(-Int.pow 2 31 ≤ count ∧ count < Int.pow 2 31) → shown.toInt = 2147483647

/-- The count of a response is narrowed to 32 bits. -/
theorem Service.narrows_totalCount (count : Int64) :
    Narrows count.toInt (Service.totalCount count) := by
  rw [Service.totalCount]
  constructor
  · intro hl hu
    rw [if_pos ⟨hl, hu⟩, Int32.toInt_ofInt_of_le hl hu]
  · intro h
    rw [if_neg h]
    rfl

/-- The response to an answer that lists items. -/
structure Api.GetFilesResponse.Lists (response : Api.GetFilesResponse) (answer : Http.Answer)
    (items : List Written) : Prop where
  /-- It reports success. -/
  success : response.success = true
  /-- It gives no reason. -/
  errorMessage : response.errorMessage = ""
  /-- It shows one file for each item, the one that the item describes, in the same order. -/
  files : List.Forall₂ (fun item details => ∃ file, Storage.Describes item file ∧
    details.Shows file) items response.files
  /-- Its count is the total that the answer states. -/
  stated : ∀ total, answer.States total → Narrows total response.totalCount
  /-- Where the answer states none, it is the number of the items. -/
  counted : (∀ total, ¬answer.States total) → items.length < Nat.pow 2 63 →
    Narrows items.length response.totalCount

namespace Service

/-- The response for a page lists the items that the page was read from. -/
theorem lists_listingResponse {answer : Http.Answer} {items : List Written}
    {files : List StoredFile} (described : List.Forall₂ Storage.Describes items files) :
    (listingResponse (Remote.listing answer files)).Lists answer items := by
  have shown : List.Forall₂ (fun item details => ∃ file, Storage.Describes item file ∧
      details.Shows file) items (files.map Api.FileDetails.ofFile) := by
    rw [List.forall₂_map_right_iff]
    exact described.imp fun item file h => ⟨file, h, Api.FileDetails.shows_ofFile file⟩
  refine ⟨rfl, rfl, shown, fun total states => ?_, fun silent small => ?_⟩
  · obtain ⟨_, _, _, _, _, _, fits⟩ := id states
    have hv := Int64.toInt_ofInt_of_le fits.1 fits.2
    have hs : Storage.statedTotal? answer = some (Int64.ofInt total) := by
      rwa [Storage.statedTotal_eq_some_iff, hv]
    have hn := narrows_totalCount (Int64.ofInt total)
    rw [hv] at hn
    simpa only [listingResponse, Remote.listing, hs, Option.getD_some] using hn
  · have hs : Storage.statedTotal? answer = none := by
      cases ht : Storage.statedTotal? answer with
      | none => rfl
      | some total => exact absurd (Storage.statedTotal_eq_some_iff.mp ht) (silent total.toInt)
    have hl : items.length = files.length := described.length_eq
    have hn := narrows_totalCount (Int64.ofNat files.length)
    rw [Int64.toInt_ofNat_of_lt (hl ▸ small), ← hl] at hn
    simpa only [listingResponse, Remote.listing, hs, Option.getD_none, hl] using hn

/-- The place of pages behind the base address of the provider, if that has a host. -/
def pagePlace? (settings : Settings) : Option Url :=
  match Url.read (Remote.apiAddress (.ofSettings settings) "files") with
  | .ok place => if place.hasHost then some place else none
  | .error _ => none

/-- The request of a page is ready where pages have a place. -/
theorem listRequest_ready {settings : Settings} {place : Url}
    (here : pagePlace? settings = some place) (query : ListQuery) :
    (Remote.listInquiry (.ofSettings settings) query).request =
      .ready ⟨.get, place.withPairs (Remote.queryPairs query),
        Remote.credential (.ofSettings settings), .empty⟩ := by
  have hn : Remote.queryPairs query ≠ [] := by simp [Remote.queryPairs]
  rw [pagePlace?] at here
  rw [Remote.listInquiry, Remote.textRequest]
  split at here
  next found reads =>
    split at here
    next host =>
      obtain rfl := Option.some.inj here
      simp only [reads, host, if_true, if_neg hn]
    next => cases here
  next => cases here

/-- A page is asked for with the pairs of the request: where the base address of the provider has a
place for pages, a call tries one request, and the query of that is read back as the pairs, after
those that the base address has itself. The tags, where none has a comma, are read back from between
the commas of their value. Putting the page of a query right twice is the same as doing it once.
Whenever an answer of success is read as a list of files, the call ends in a response that lists its
items, whatever total it states or does not. -/
theorem files_listed (settings : Settings) (request : Api.GetFilesRequest) :
    (∀ place : Url, pagePlace? settings = some place →
      ∃ (first : Http.Request) (query : String), first.method = .get ∧
        first.url.query = some query ∧ Url.Form.decode query = place.pairs ++ request.pairs ∧
        ∀ (remote : Remote) (took : Nat → Chain.Reading) (state : State Remote.State),
          remote.config = .ofSettings settings → Reached state →
            Http.Tried remote.provider state.storage.sent first
              (call settings remote.storage took .getFiles request state).state.storage.sent) ∧
    (∀ value, ("tags", value) ∈ request.pairs → (∀ tag ∈ request.tags, ',' ∉ tag.toList) →
      (value.toList.splitOn ',').map String.ofList = request.tags) ∧
    (∀ query : ListQuery, query.normalized.normalized = query.normalized) ∧
    ∀ (remote : Remote) (took : Nat → Chain.Reading) (state : State Remote.State)
        (answer : Http.Answer) (files : List StoredFile), Reached state →
      remote.Promised state.storage (operationOf .getFiles request) answer →
        Storage.readFiles? answer.body = some files →
          ∃ (items : List Written) (response : Api.GetFilesResponse),
            (Written.list items).SpelledBy answer.body ∧ response.Lists answer items ∧
              (call settings remote.storage took .getFiles request state).ending =
                .answered (.ok response) := by
  refine ⟨fun place here => ?_, fun value member plain => ?_,
    ListQuery.normalized_normalized, ?_⟩
  · obtain ⟨query, hq, decoded⟩ := Url.pairs_withPairs place request.pairs
    refine ⟨⟨.get, place.withPairs request.pairs, Remote.credential (.ofSettings settings), .empty⟩,
      query, rfl, hq, decoded, fun remote took state same reached => ?_⟩
    have ready := listRequest_ready here request.toQuery.normalized
    rw [queryPairs_eq, ← same] at ready
    rw [(call_accepted settings remote took reached rfl).1, operationOf, Remote.storage,
      Remote.ask_ready remote ready, same]
    exact Http.tried_send remote.provider _ state.storage.sent
  · obtain ⟨present, rfl⟩ := tags_of_mem_pairs member
    exact splitOn_intercalate present plain
  · intro remote took state answer files reached promised reads
    obtain ⟨items, spelled, described⟩ := Storage.describes_of_readFiles reads
    have done : (remote.storage (operationOf .getFiles request) state.storage).outcome =
        .done (Remote.listing answer files) :=
      (promised.ends.1 _).mpr ⟨files, ⟨promised.whole, reads⟩, rfl⟩
    exact ⟨items, _, spelled, lists_listingResponse described,
      call_of_done settings remote took reached rfl done⟩

/-- An answer that lists two files, one of them as a list of its values, and states that there are
many more. -/
def pageAnswer : Http.Answer :=
  ⟨200, [("x-total-count", Bytes.ofText " +5000000000")], Bytes.ofText
    "[\x7b\"name\": \"b.png\", \"other\": 1e999, \"fileId\": \"1\"\x7d, [\"2\", \"a.png\"]]",
    .complete⟩

/-- A provider that answers with this page. -/
def pageRemote : Remote := ⟨Remote.silentRemote.config, 0, fun _ => .answered pageAnswer⟩

/-- A request for the files under two tags. -/
def pageRequest : Api.GetFilesRequest := ⟨-5, 0, "a b+c", ["x", "\u00fc"], "", "", "/"⟩

/-- The files of that page. -/
def pageFiles : List StoredFile :=
  [{ StoredFile.blank with fileId := "1", name := "b.png" },
    { StoredFile.blank with fileId := "2", name := "a.png" }]

/-- The page promises a list of files, and that is what it is read as. -/
theorem page_promised :
    pageRemote.Promised ⟨[], []⟩ (operationOf .getFiles pageRequest) pageAnswer ∧
      Storage.readFiles? pageAnswer.body = some pageFiles := by
  refine ⟨⟨⟨rfl, _, rfl, Storage.Prepared.meets_of_answered ?_ rfl rfl⟩, ?_, rfl⟩, ?_⟩
  · decide +kernel
  · exact ⟨Nat.le_refl 200, (by decide : 200 < 300)⟩
  · decide +kernel

/-- The page is asked for with the texts of the request, shown, and counted as far as that goes. -/
theorem page_listed :
    ∃ (place : Url) (first : Http.Request) (query : String) (response : Api.GetFilesResponse),
      pagePlace? (countingSettings true) = some place ∧ place.pairs = [] ∧
      let called := call (countingSettings true) pageRemote.storage (fun _ => 7) .getFiles
        pageRequest (.initial ⟨[], []⟩)
      called.state.storage.sent = [first] ∧ first.url.query = some query ∧
        Url.Form.decode query = [("skip", "0"), ("limit", "1000"), ("searchQuery", "a b+c"),
          ("tags", "x,\u00fc"), ("path", "/")] ∧
        ("x,\u00fc".toList.splitOn ',').map String.ofList = pageRequest.tags ∧
        called.ending = .answered (.ok response) ∧
        response.files.map (fun shown => (shown.fileId, shown.name)) =
          [("1", "b.png"), ("2", "a.png")] ∧
        response.totalCount.toInt = 2147483647 := by
  have here : pagePlace? (countingSettings true) =
      some ⟨"http", some ⟨"[::1]", none⟩, .segments ["v1", "files"], none, none⟩ := by
    decide +kernel
  obtain ⟨promised, reads⟩ := page_promised
  have states : pageAnswer.States 5000000000 :=
    Storage.statedTotal_eq_some_iff.mp (by decide +kernel :
      Storage.statedTotal? pageAnswer = some 5000000000)
  have once : (call (countingSettings true) pageRemote.storage (fun _ => 7) .getFiles
      pageRequest (.initial ⟨[], []⟩)).state.storage.sent.length = 1 := by decide +kernel
  obtain ⟨asked, tags, _, lists⟩ := files_listed (countingSettings true) pageRequest
  obtain ⟨first, query, _, hq, decoded, tried⟩ := asked _ here
  obtain ⟨items, response, spelled, listed, ends⟩ := lists pageRemote (fun _ => 7)
    (.initial ⟨[], []⟩) pageAnswer _ (.initial []) promised reads
  have sent := tried pageRemote (fun _ => 7) (.initial ⟨[], []⟩) silent_config.symm (.initial [])
  refine ⟨_, first, query, response, here, rfl, ?_, hq, ?_, ?_, ends, ?_, ?_⟩
  · generalize (call (countingSettings true) pageRemote.storage (fun _ => 7) .getFiles
      pageRequest (.initial ⟨[], []⟩)).state.storage.sent = after at sent once
    cases sent with
    | kept => cases once
    | once _ later =>
      obtain rfl := List.length_eq_zero_iff.mp (Nat.succ.inj once)
      rfl
  · rw [decoded]
    decide +kernel
  · exact tags "x,\u00fc" (by decide +kernel) (by decide)
  · have done : (pageRemote.storage (operationOf .getFiles pageRequest) ⟨[], []⟩).outcome =
        .done (Remote.listing pageAnswer pageFiles) :=
      (promised.ends.1 _).mpr ⟨_, ⟨promised.whole, reads⟩, rfl⟩
    have responds := call_of_done (countingSettings true) pageRemote (fun _ => 7) (.initial []) rfl
      done
    rw [← Except.ok.inj (Chain.Ending.answered.inj (responds.symm.trans ends))]
    rfl
  · exact (listed.stated 5000000000 states).beyond (by decide)

end Service

end MediaGateway
