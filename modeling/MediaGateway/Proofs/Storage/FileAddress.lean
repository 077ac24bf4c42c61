import MediaGateway.Proofs.Storage.Inquiry
import MediaGateway.Proofs.Url.Base

/-!
# Where a file is addressed

What is asked about one file is asked at the address of all files with one more
segment, which stands for the identifier. It decodes to the identifier when that
holds no tabs and no ends of lines; these are dropped before the segment comes in,
so other identifiers share an address or lead to the place above.
-/

namespace MediaGateway.Storage.Remote

open Url (TakesPath isBreak isDots isSlash settle trunk unbroken wholeSegment)

/-- What is asked about one file. -/
inductive FileCall where
  /-- Its description. -/
  | details
  /-- Other details. -/
  | update (changes : FileUpdate)
  /-- Its end. -/
  | delete

/-- The operation of a call. -/
def FileCall.operation (fileId : String) : FileCall → Operation
  | details => .details fileId
  | update changes => .update fileId changes
  | delete => .delete fileId

/-- The segments behind the identifier. -/
def FileCall.about : FileCall → List String
  | details => ["details"]
  | update _ => ["details"]
  | delete => []

/-- Nothing but details is asked for behind an identifier. -/
theorem FileCall.about_cases (call : FileCall) : call.about = ["details"] ∨ call.about = [] := by
  cases call with
  | details => exact .inl rfl
  | update changes => exact .inl rfl
  | delete => exact .inr rfl

/-- The request of a call, sent to a place. -/
def FileCall.request (config : StorageConfig) (place : Url) : FileCall → Http.Request
  | details => ⟨.get, place, credential config, .empty⟩
  | update changes => ⟨.patch, place, credential config, .json (updateBody changes)⟩
  | delete => ⟨.delete, place, credential config, .empty⟩

/-- A call sends its request to a place first, if any request can go there, and sends nothing
otherwise. -/
def AsksAt (remote : Remote) (call : FileCall) (fileId : String) (place : Url) : Prop :=
  ∀ state, let sent := (remote.storage (call.operation fileId) state).state.sent
    if Http.isSendable place then
      ∃ more, sent = state.sent ++ call.request remote.config place :: more
    else sent = state.sent

/-- A call whose address fails does so, and nothing is sent. -/
theorem fileCall_failed {remote : Remote} {call : FileCall} {fileId : String} {fault : Fault}
    (h : fileAddress remote.config fileId call.about = .error fault) (state : State) :
    (remote.storage (call.operation fileId) state).outcome = .failed fault ∧
      (remote.storage (call.operation fileId) state).state = state := by
  have hw : ∀ method body, fileRequest remote.config method fileId call.about body =
      .withheld fault := by
    intro method body
    rw [fileRequest, h]
  cases call with
  | details => exact ask_withheld remote (hw .get .empty) state
  | update changes => exact ask_withheld remote (hw .patch (.json (updateBody changes))) state
  | delete => exact ask_withheld remote (hw .delete .empty) state

/-- A call asks at its address. -/
theorem fileCall_asksAt {remote : Remote} {call : FileCall} {fileId : String} {place : Url}
    (h : fileAddress remote.config fileId call.about = .ok place) :
    AsksAt remote call fileId place := by
  intro state
  have hs : (remote.storage (call.operation fileId) state).state.sent =
      (Http.send remote.provider (call.request remote.config place) state.sent).sent := by
    have hr : ∀ method body, fileRequest remote.config method fileId call.about body =
        .ready ⟨method, place, credential remote.config, body⟩ := by
      intro method body
      rw [fileRequest, h]
    cases call with
    | details => exact ask_ready remote (hr .get .empty) state
    | update changes => exact ask_ready remote (hr .patch (.json (updateBody changes))) state
    | delete => exact ask_ready remote (hr .delete .empty) state
  have hp : (call.request remote.config place).url = place := by cases call <;> rfl
  dsimp only
  rw [hs]
  cases hc : Http.isSendable place with
  | true =>
    rw [← hp] at hc
    exact Http.send_first remote.provider hc state.sent
  | false =>
    rw [← hp] at hc
    rw [Http.send_unsendable remote.provider hc]
    rfl

/-- The segments of the address of all files. -/
def allFiles (config : StorageConfig) (own : List String) : List String :=
  trunk config.apiBaseUrl.toList own ++ ["v1", "files"]

/-- The segments of the address of one file, or of something about it. -/
def filePath (config : StorageConfig) (own : List String) (fileId : String) (call : FileCall) :
    List String :=
  settle false (allFiles config own) (wholeSegment fileId) ++ call.about

/-- Above all files there is one segment less. -/
theorem above_allFiles (config : StorageConfig) (own : List String) :
    Url.above (allFiles config own) = trunk config.apiBaseUrl.toList own ++ ["v1"] := by
  have hs : ∀ names : List String, names ++ ["v1", "files"] = names ++ ["v1"] ++ ["files"] := by
    intro names
    rw [List.append_assoc, List.singleton_append]
  have hl : Url.isLasting "files" = false := rfl
  simp only [Url.above, allFiles, hs, List.getLast?_concat, Option.any_some, hl,
    Bool.false_eq_true, if_false, List.dropLast_concat]

/-- A segment never comes in alone behind all files. -/
theorem settle_allFiles_ne (config : StorageConfig) (own : List String) (segment : String) :
    settle false (allFiles config own) segment ≠ [""] := by
  have hn : ∀ (front : List String) (last : String), front ≠ [] → front ++ [last] ≠ [""] := by
    intro front last hf he
    have hl := congrArg List.length he
    have hp := List.length_pos_iff.mpr hf
    rw [List.length_append, List.length_singleton, List.length_singleton] at hl
    omega
  have ha : allFiles config own ≠ [] :=
    List.append_ne_nil_of_right_ne_nil _ (List.cons_ne_nil _ _)
  rw [settle, above_allFiles]
  split
  · exact hn _ _ (List.append_ne_nil_of_right_ne_nil _ (List.cons_ne_nil _ _))
  · split
    · exact hn _ _ ha
    · exact hn _ _ ha

/-- The address of every identifier but dots. -/
theorem fileAddress_eq {config : StorageConfig} {base : Url}
    (h : TakesPath config.apiBaseUrl base) : ∃ own, base.path = .segments own ∧
      ∀ call fileId, fileId ≠ "." ∧ fileId ≠ ".." →
        fileAddress config fileId (FileCall.about call) =
          .ok { base with path := .segments (filePath config own fileId call) } := by
  obtain ⟨own, hp, hr⟩ := Url.read_behind h (List.cons_ne_nil "v1" ["files"]) (by decide)
  refine ⟨own, hp, ?_⟩
  intro call fileId hd
  have hk : ∀ names, Url.kind { base with path := .segments names } = .web := by
    intro names
    rw [Url.kind]
    rcases h.web with hw | hw <;> rw [hw] <;> rfl
  have ha : apiAddress config "files" = config.apiBaseUrl ++ Url.pathText ["v1", "files"] := by
    rw [apiAddress, String.append_assoc]
    rfl
  have ho : ¬(fileId = "." ∨ fileId = "..") := fun hs => hs.elim hd.1 hd.2
  have hn : allFiles config own ≠ [""] := by
    intro he
    have hl := congrArg List.length he
    rw [allFiles, List.length_append] at hl
    simp only [List.length_cons, List.length_nil] at hl
    omega
  have hf : Url.push? { base with path := .segments (allFiles config own) } fileId =
      some { base with
        path := .segments (settle false (allFiles config own) (wholeSegment fileId)) } :=
    Url.push_web (hk _) rfl hn hd
  have hl : ∀ names : List String, settle false names (wholeSegment "details") =
      names ++ ["details"] := fun names => Url.settle_of_not_dots rfl names
  have hs : Url.push? { base with
        path := .segments (settle false (allFiles config own) (wholeSegment fileId)) } "details" =
      some { base with
        path := .segments (settle false (allFiles config own) (wholeSegment fileId) ++
          ["details"]) } := by
    rw [← hl]
    exact Url.push_web (hk _) rfl (settle_allFiles_ne config own _) (by decide)
  rw [fileAddress, if_neg ho, ha, hr, ← allFiles]
  rcases call.about_cases with hc | hc
  · simp only [hc, Url.pushAll?, List.foldlM_cons, List.foldlM_nil, hf, hs, filePath, bind,
      Option.bind, pure]
  · simp only [hc, Url.pushAll?, List.foldlM_cons, List.foldlM_nil, hf, filePath, List.append_nil,
      bind, Option.bind, pure]

/-- The place that a call asks at, given the address of the provider and its own segments. -/
def filePlace (config : StorageConfig) (base : Url) (own : List String) (fileId : String)
    (call : FileCall) : Url :=
  { base with path := .segments (filePath config own fileId call) }

/-- An identifier without tabs and ends of lines. -/
def Unbroken (fileId : String) : Prop := ∀ char ∈ fileId.toList, isBreak char = false

/-- A place that keeps an identifier whole. Behind all files comes one segment that holds nothing
to separate segments or to end a path, is no dots, and decodes to the identifier; behind that
come the segments of the call. -/
def KeepsWhole (front : List String) (call : FileCall) (fileId : String) (place : Url) : Prop :=
  ∃ segment, place.path = .segments (front ++ segment :: call.about) ∧
    (∀ char ∈ segment.toList, isSlash true char = false ∧ Url.inPath char = true) ∧
    isDots segment = false ∧ Url.percentDecode (Bytes.ofText segment) = Bytes.ofText fileId

/-- What is left of an identifier that holds no tabs and no ends of lines is no dots. -/
theorem isDots_of_unbroken {fileId : String} (hd : fileId ≠ "." ∧ fileId ≠ "..")
    (hu : Unbroken fileId) : isDots (wholeSegment fileId) = false := by
  rw [← Bool.not_eq_true, Url.isDots_wholeSegment, Url.unbroken_eq.mpr hu]
  rintro (h | h)
  · exact hd.1 (String.toList_injective h)
  · exact hd.2 (String.toList_injective h)

/-- The path of an identifier that is left whole, or of any other one that dots are not left
of. -/
theorem filePath_of_not_dots (config : StorageConfig) (own : List String) {fileId : String}
    (h : isDots (wholeSegment fileId) = false) (call : FileCall) :
    filePath config own fileId call =
      allFiles config own ++ wholeSegment fileId :: call.about := by
  rw [filePath, Url.settle_of_not_dots h, List.append_assoc, List.singleton_append]

/-- An identifier that one dot is left of stands for nothing among the files. -/
theorem filePath_of_dot (config : StorageConfig) (own : List String) {fileId : String}
    (h : unbroken fileId = ['.']) (call : FileCall) :
    filePath config own fileId call = allFiles config own ++ "" :: call.about := by
  have hw : wholeSegment fileId = "." := by
    rw [wholeSegment, h]
    rfl
  rw [filePath, hw, List.append_cons]
  rfl

/-- An identifier that two dots are left of leads above the files. -/
theorem filePath_of_double_dot (config : StorageConfig) (own : List String) {fileId : String}
    (h : unbroken fileId = ['.', '.']) (call : FileCall) :
    filePath config own fileId call =
      trunk config.apiBaseUrl.toList own ++ "v1" :: "" :: call.about := by
  have hw : wholeSegment fileId = ".." := by
    rw [wholeSegment, h]
    rfl
  have hs : settle false (allFiles config own) ".." =
      Url.above (allFiles config own) ++ [""] := rfl
  rw [filePath, hw, hs, above_allFiles]
  simp only [List.append_assoc, List.cons_append, List.nil_append]

/-- An identifier has the path of what is left of it. -/
theorem filePath_of_rest (config : StorageConfig) (own : List String) (fileId : String)
    (call : FileCall) :
    filePath config own fileId call =
      filePath config own (String.ofList (unbroken fileId)) call := by
  have hu : unbroken (String.ofList (unbroken fileId)) = unbroken fileId := by
    rw [unbroken, unbroken, String.toList_ofList, List.filter_filter]
    simp only [Bool.and_self]
  rw [filePath, filePath, wholeSegment, wholeSegment, hu]

/-- An identifier is kept whole exactly when it holds no tabs and no ends of lines. -/
theorem keepsWhole_iff (config : StorageConfig) (base : Url) (own : List String)
    {fileId : String} (hd : fileId ≠ "." ∧ fileId ≠ "..") (call : FileCall) :
    KeepsWhole (allFiles config own) call fileId (filePlace config base own fileId call) ↔
      Unbroken fileId := by
  constructor
  · rintro ⟨segment, hp, _, hn, hs⟩
    have hp := Url.Path.segments.inj hp
    by_cases hw : isDots (wholeSegment fileId) = true
    · rcases (Url.isDots_wholeSegment fileId).mp hw with h | h
      · rw [filePath_of_dot config own h] at hp
        obtain ⟨rfl, _⟩ := List.cons.inj (List.append_cancel_left hp)
        rw [Bytes.ofText_eq_nil.mp hs.symm] at h
        exact absurd h (by decide)
      · rw [filePath_of_double_dot config own h, allFiles, List.append_assoc] at hp
        have hc := List.append_cancel_left hp
        simp only [List.cons_append, List.cons.injEq] at hc
        exact absurd hc.2.1 (by decide)
    · rw [filePath_of_not_dots config own (Bool.eq_false_iff.mpr hw)] at hp
      obtain ⟨rfl, _⟩ := List.cons.inj (List.append_cancel_left hp)
      rw [Url.percentDecode_wholeSegment] at hs
      have he := congrArg String.toList (Bytes.ofText_injective hs)
      rw [String.toList_ofList] at he
      exact Url.unbroken_eq.mp he
  · intro hu
    have hn := isDots_of_unbroken hd hu
    refine ⟨wholeSegment fileId, ?_, ?_, hn, ?_⟩
    · rw [filePlace, filePath_of_not_dots config own hn]
    · intro char hc
      obtain ⟨hs, hb, hi⟩ := Url.percentEncode_inSegment hc
      simp only [isSlash, hs, hb rfl, hi, decide_false, Bool.and_false, Bool.or_self, and_self]
    · rw [Url.percentDecode_wholeSegment, Url.unbroken_eq.mpr hu, String.ofList_toList]

/-- Identifiers that are kept whole share a path only when they are the same. -/
theorem filePath_injective (config : StorageConfig) (own : List String) {left right : String}
    (hl : (left ≠ "." ∧ left ≠ "..") ∧ Unbroken left)
    (hr : (right ≠ "." ∧ right ≠ "..") ∧ Unbroken right) {call other : FileCall}
    (h : filePath config own left call = filePath config own right other) :
    left = right ∧ call.about = other.about := by
  rw [filePath_of_not_dots config own (isDots_of_unbroken hl.1 hl.2),
    filePath_of_not_dots config own (isDots_of_unbroken hr.1 hr.2)] at h
  obtain ⟨hs, ha⟩ := List.cons.inj (List.append_cancel_left h)
  have hu := Url.percentEncode_injective (Url.reservedInSegment_reserving true) hs
  rw [Url.unbroken_eq.mpr hl.2, Url.unbroken_eq.mpr hr.2] at hu
  exact ⟨String.toList_injective hu, ha⟩

/-- Dots are refused before anything is sent. -/
theorem dots_refused (remote : Remote) {fileId : String} (h : fileId = "." ∨ fileId = "..")
    (call : FileCall) (state : State) :
    (remote.storage (call.operation fileId) state).outcome =
        .failed (.invalid ("Invalid file ID: " ++ fileId)) ∧
      (remote.storage (call.operation fileId) state).state = state := by
  have hf : fileAddress remote.config fileId call.about =
      .error (.invalid ("Invalid file ID: " ++ fileId)) := by
    rw [fileAddress, if_pos h]
  exact fileCall_failed hf state

/-- What is asked about one file is asked at a place that keeps its identifier whole exactly when
the identifier holds no tabs and no ends of lines, and then no other identifier has its place. Any
other identifier is asked for at the place of what is left of it, and when that is dots, outside
of the place of any file. Dots themselves are refused. -/
theorem file_kept_whole_iff_unbroken (remote : Remote) {base : Url}
    (h : TakesPath remote.config.apiBaseUrl base) :
    ∃ own, base.path = .segments own ∧
      (∀ call fileId, fileId ≠ "." ∧ fileId ≠ ".." →
        AsksAt remote call fileId (filePlace remote.config base own fileId call) ∧
          (KeepsWhole (allFiles remote.config own) call fileId
            (filePlace remote.config base own fileId call) ↔ Unbroken fileId)) ∧
      (∀ left right, (left ≠ "." ∧ left ≠ "..") ∧ Unbroken left →
        (right ≠ "." ∧ right ≠ "..") ∧ Unbroken right → ∀ call other,
          filePath remote.config own left call = filePath remote.config own right other →
            left = right ∧ call.about = other.about) ∧
      (∀ call fileId, filePath remote.config own fileId call =
        filePath remote.config own (String.ofList (unbroken fileId)) call) ∧
      (∀ call fileId, unbroken fileId = ['.'] →
        filePath remote.config own fileId call =
          allFiles remote.config own ++ "" :: call.about) ∧
      (∀ call fileId, unbroken fileId = ['.', '.'] →
        filePath remote.config own fileId call =
          trunk remote.config.apiBaseUrl.toList own ++ "v1" :: "" :: call.about) ∧
      ∀ (call : FileCall) fileId state, fileId = "." ∨ fileId = ".." →
        (remote.storage (call.operation fileId) state).outcome =
            .failed (.invalid ("Invalid file ID: " ++ fileId)) ∧
          (remote.storage (call.operation fileId) state).state = state := by
  obtain ⟨own, hp, ha⟩ := fileAddress_eq h
  refine ⟨own, hp, ?_, ?_, ?_, ?_, ?_, ?_⟩
  · intro call fileId hd
    exact ⟨fileCall_asksAt (ha call fileId hd), keepsWhole_iff remote.config base own hd call⟩
  · intro left right hl hr call other he
    exact filePath_injective remote.config own hl hr he
  · intro call fileId
    exact filePath_of_rest remote.config own fileId call
  · intro call fileId hu
    exact filePath_of_dot remote.config own hu call
  · intro call fileId hu
    exact filePath_of_double_dot remote.config own hu call
  · intro call fileId state hd
    exact dots_refused remote hd call state

/-- A storage whose provider keeps silent. -/
def silentRemote : Remote :=
  ⟨⟨"private", "http://[::1]", "http://[::1]", 60, 100, 100⟩, 0, fun _ => .silent⟩

/-- The address of its provider. -/
def silentBase : Url := ⟨"http", some ⟨"[::1]", none⟩, .segments [""], none, none⟩

/-- An identifier with a slash is kept whole. -/
theorem slash_kept_whole : TakesPath silentRemote.config.apiBaseUrl silentBase ∧
    ∃ own, silentBase.path = .segments own ∧
      AsksAt silentRemote .delete "a/b"
        (filePlace silentRemote.config silentBase own "a/b" .delete) ∧
      KeepsWhole (allFiles silentRemote.config own) .delete "a/b"
        (filePlace silentRemote.config silentBase own "a/b" .delete) := by
  have ht : TakesPath silentRemote.config.apiBaseUrl silentBase := by
    refine ⟨rfl, .inl rfl, rfl, rfl, ?_⟩
    intro char hc
    obtain rfl : ']' = char := Option.some.inj hc
    decide
  have hu : Unbroken "a/b" := by
    have hall : "a/b".toList.all (fun char => !Url.isBreak char) = true := rfl
    intro char hc
    exact (Bool.not_eq_true' _).mp (List.all_eq_true.mp hall char hc)
  obtain ⟨own, hp, hk, _⟩ := file_kept_whole_iff_unbroken silentRemote ht
  have hd := hk .delete "a/b" (by decide)
  exact ⟨ht, own, hp, hd.1, hd.2.mpr hu⟩

/-- An identifier with a tab is not kept whole. What is deleted is another file, or nothing among
the files. -/
theorem tab_not_kept_whole :
    ("a\tb" ≠ "" ∧ "a\tb" ≠ "." ∧ "a\tb" ≠ "..") ∧ (".\t." ≠ "" ∧ ".\t." ≠ "." ∧ ".\t." ≠ "..") ∧
      (∃ place : Url, place.text = "http://[::1]/v1/files/ab" ∧ Http.isSendable place = true ∧
        AsksAt silentRemote .delete "a\tb" place ∧ AsksAt silentRemote .delete "ab" place ∧
        Url.percentDecode (Bytes.ofText "ab") ≠ Bytes.ofText "a\tb") ∧
      ∃ place : Url, place.text = "http://[::1]/v1/" ∧ Http.isSendable place = true ∧
        AsksAt silentRemote .delete ".\t." place := by
  have ha : ∀ fileId ∈ ["a\tb", "ab"], fileAddress silentRemote.config fileId [] =
      .ok { silentBase with path := .segments ["v1", "files", "ab"] } := by
    intro fileId hf
    simp only [List.mem_cons, List.not_mem_nil, or_false] at hf
    rcases hf with rfl | rfl <;> rfl
  have hd : fileAddress silentRemote.config ".\t." [] =
      .ok { silentBase with path := .segments ["v1", ""] } := rfl
  refine ⟨by decide, by decide, ?_, ?_⟩
  · exact ⟨{ silentBase with path := .segments ["v1", "files", "ab"] }, rfl, by decide,
      fileCall_asksAt (ha "a\tb" (List.mem_cons_self ..)),
      fileCall_asksAt (ha "ab" (List.mem_cons_of_mem _ (List.mem_cons_self ..))), by decide⟩
  · exact ⟨{ silentBase with path := .segments ["v1", ""] }, rfl, by decide, fileCall_asksAt hd⟩

end MediaGateway.Storage.Remote
