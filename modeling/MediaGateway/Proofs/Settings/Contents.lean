import MediaGateway.Proofs.Settings.Value
import MediaGateway.Settings

/-!
# What settings hold

Settings are known by the value that each of them has. The settings that are made of a draft have
the values that the draft holds, each in the place of its key, and the usual ones elsewhere; but no
settings are made of a draft that misses a credential. Settings that were made are checked: none of
the credentials may be blank, and somebody has to serve calls. What is reported is the first
credential, in the order of declaration, with which something is wrong.
-/

namespace MediaGateway.Settings

variable {draft : Draft} {key : Key} {value : Value} {problem : Problem}
  {settings other : Settings}

/-! ### Settings as values of their keys -/

/-- The value that a setting has. -/
def value? (settings : Settings) : Key → Option Value
  | .ikPrivateKey => some (.text settings.ikPrivateKey)
  | .ikPublicKey => some (.text settings.ikPublicKey)
  | .ikUrlEndpoint => some (.text settings.ikUrlEndpoint)
  | .ikApiBaseUrl => some (.text settings.ikApiBaseUrl)
  | .ikUploadBaseUrl => some (.text settings.ikUploadBaseUrl)
  | .ikTimeoutSecs => some (.number settings.ikTimeoutSecs.toNat)
  | .grpcHost => some (.text settings.grpcHost)
  | .grpcPort => some (.number settings.grpcPort.toNat)
  | .maxWorkers => some (.number settings.maxWorkers.toNat)
  | .logLevel => some (.text settings.logLevel)
  | .logFormat => some (.format settings.logFormat)
  | .appName => some (.text settings.appName)
  | .environment => some (.text settings.environment)
  | .metricsEnabled => settings.metricsEnabledSetting.map .flag
  | .maxFileSizeMb => some (.number settings.maxFileSizeMb.toNat)
  | .maxFilesPerBatchDelete => some (.number settings.maxFilesPerBatchDelete.toNat)
  | .maxMessageSizeMb => some (.number settings.maxMessageSizeMb.toNat)
  | .shutdownGraceSecs => some (.number settings.shutdownGraceSecs.toNat)

/-- The value of a setting that no variable gives; credentials have none, and whether calls are
counted is left open. -/
def Key.usual? : Key → Option Value
  | ikPrivateKey | ikPublicKey | ikUrlEndpoint | metricsEnabled => none
  | ikApiBaseUrl => some (.text "https://api.imagekit.io")
  | ikUploadBaseUrl => some (.text "https://upload.imagekit.io")
  | ikTimeoutSecs => some (.number 60)
  | grpcHost => some (.text "0.0.0.0")
  | grpcPort => some (.number 50056)
  | maxWorkers => some (.number 10)
  | logLevel => some (.text "INFO")
  | logFormat => some (.format .json)
  | appName => some (.text "media-service")
  | environment => some (.text "development")
  | maxFileSizeMb => some (.number 100)
  | maxFilesPerBatchDelete => some (.number 100)
  | maxMessageSizeMb => some (.number 256)
  | shutdownGraceSecs => some (.number 30)

/-- Settings with the same values are the same. -/
theorem ext_value? (h : ∀ key, settings.value? key = other.value? key) : settings = other := by
  have htext : ∀ {one two : String}, some (Value.text one) = some (.text two) → one = two :=
    fun h => Value.text.inj (Option.some.inj h)
  have hword : ∀ {one two : UInt64},
      some (Value.number one.toNat) = some (.number two.toNat) → one = two :=
    fun h => UInt64.toNat_inj.mp (Value.number.inj (Option.some.inj h))
  have hport : settings.grpcPort = other.grpcPort :=
    UInt16.toNat_inj.mp (Value.number.inj (Option.some.inj (h .grpcPort)))
  have hformat : settings.logFormat = other.logFormat :=
    Value.format.inj (Option.some.inj (h .logFormat))
  have hflag : settings.metricsEnabledSetting = other.metricsEnabledSetting :=
    Option.map_injective (fun _ _ => Value.flag.inj) (h .metricsEnabled)
  cases settings
  cases other
  rw [mk.injEq]
  exact ⟨htext (h .ikPrivateKey), htext (h .ikPublicKey), htext (h .ikUrlEndpoint),
    htext (h .ikApiBaseUrl), htext (h .ikUploadBaseUrl), hword (h .ikTimeoutSecs),
    htext (h .grpcHost), hport, hword (h .maxWorkers), htext (h .logLevel), hformat,
    htext (h .appName), htext (h .environment), hflag, hword (h .maxFileSizeMb),
    hword (h .maxFilesPerBatchDelete), hword (h .maxMessageSizeMb), hword (h .shutdownGraceSecs)⟩

/-! ### From a draft to settings -/

/-- The first of some settings for which something holds. -/
inductive First (holds : Key → Prop) : List Key → Key → Prop where
  /-- It holds for the one in front. -/
  | here {key : Key} {rest : List Key} (h : holds key) : First holds (key :: rest) key
  /-- It does not, and is looked for behind it. -/
  | later {other key : Key} {rest : List Key} (h : ¬ holds other) (behind : First holds rest key) :
      First holds (other :: rest) key

/-- What is looked for is found in front or behind. -/
theorem first_cons_iff {holds : Key → Prop} {other : Key} {rest : List Key} :
    First holds (other :: rest) key ↔
      (holds other ∧ key = other) ∨ (¬ holds other ∧ First holds rest key) := by
  constructor
  · rintro (⟨h⟩ | ⟨h, behind⟩)
    · exact .inl ⟨h, rfl⟩
    · exact .inr ⟨h, behind⟩
  · rintro (⟨h, rfl⟩ | ⟨h, behind⟩)
    · exact .here h
    · exact .later h behind

/-- Nothing is found among no settings. -/
theorem not_first_nil {holds : Key → Prop} : ¬ First holds [] key := nofun

/-- A first one is found unless there is none at all. -/
theorem exists_first_iff {holds : Key → Prop} {keys : List Key} :
    (∃ key, First holds keys key) ↔ ∃ key ∈ keys, holds key := by
  induction keys with
  | nil => simp [not_first_nil]
  | cons other rest ih =>
    simp only [first_cons_iff, exists_or, exists_and_left, exists_eq, and_true, ih,
      List.mem_cons, or_and_right, exists_eq_left]
    tauto

/-- What is the same on all settings of a list is found at the same place. -/
theorem first_congr {holds others : Key → Prop} {keys : List Key}
    (h : ∀ key ∈ keys, holds key ↔ others key) : First holds keys key ↔ First others keys key := by
  induction keys with
  | nil => simp [not_first_nil]
  | cons other rest ih =>
    rw [List.forall_mem_cons] at h
    rw [first_cons_iff, first_cons_iff, h.1, ih h.2]

/-- The settings without which nothing works, in the order of declaration. -/
def credentials : List Key := [.ikPrivateKey, .ikPublicKey, .ikUrlEndpoint]

/-- Two steps succeed when the first does and the second does with what the first has given. -/
theorem bind_eq_ok_iff {α β : Type} {found : Except Problem α} {next : α → Except Problem β}
    {result : β} :
    found >>= next = .ok result ↔ ∃ value, found = .ok value ∧ next value = .ok result := by
  cases found <;> simp [bind, Except.bind]

/-- They fail when the first does, or else the second with what the first has given. -/
theorem bind_eq_error_iff {α β : Type} {found : Except Problem α} {next : α → Except Problem β} :
    found >>= next = .error problem ↔
      found = .error problem ∨ ∃ value, found = .ok value ∧ next value = .error problem := by
  cases found <;> simp [bind, Except.bind]

namespace Draft

/-- A text of a draft is one of its values. -/
theorem text?_eq_some_iff {content : String} :
    draft.text? key = some content ↔ draft.value? key = some (.text content) := by
  rw [text?]
  split <;> simp_all

/-- What must be there is there when the draft holds a text for it. -/
theorem require_ok_iff {content : String} :
    draft.require key = .ok content ↔ draft.value? key = some (.text content) := by
  rw [require, ← text?_eq_some_iff]
  cases draft.text? key <;> simp

/-- It is missing otherwise. -/
theorem require_error_iff : draft.require key = .error problem ↔
    draft.text? key = none ∧ problem = .missing key := by
  rw [require]
  cases draft.text? key <;> simp [eq_comm]

/-- Where all values are texts, reading texts loses none. -/
theorem text?_map (h : ∀ value, draft.value? key = some value → value.IsOf .text) :
    (draft.text? key).map Value.text = draft.value? key := by
  rw [text?]
  cases hv : draft.value? key with
  | none => rfl
  | some value =>
    have hk := h value hv
    cases value with
    | text content => rfl
    | _ => exact hk.elim

/-- Where all values are numbers that fit a word, words that are as large tell them. -/
theorem number?_map {α : Type} {bits : Nat} {ofNat : Nat → α} {toNat : α → Nat}
    (h : ∀ value, draft.value? key = some value → value.IsOf (.number bits))
    (hword : ∀ {number}, number < Nat.pow 2 bits → toNat (ofNat number) = number) :
    ((draft.number? key).map ofNat).map (Value.number ∘ toNat) = draft.value? key := by
  rw [number?]
  cases hv : draft.value? key with
  | none => rfl
  | some value =>
    have hk := h value hv
    cases value with
    | number content => exact congrArg (some ∘ Value.number) (hword hk)
    | _ => exact hk.elim

/-- Where all values are truth values, reading these loses none. -/
theorem flag?_map (h : ∀ value, draft.value? key = some value → value.IsOf .flag) :
    (draft.flag? key).map Value.flag = draft.value? key := by
  rw [flag?]
  cases hv : draft.value? key with
  | none => rfl
  | some value =>
    have hk := h value hv
    cases value with
    | flag content => rfl
    | _ => exact hk.elim

/-- Where all values are log formats, reading these loses none. -/
theorem format?_map (h : ∀ value, draft.value? key = some value → value.IsOf .format) :
    (draft.format? key).map Value.format = draft.value? key := by
  rw [format?]
  cases hv : draft.value? key with
  | none => rfl
  | some value =>
    have hk := h value hv
    cases value with
    | format content => rfl
    | _ => exact hk.elim

end Draft

/-- What is found, or else the usual, is the value of the one or of the other. -/
theorem some_getD {α β : Type} {found : Option α} {wrap : α → β} {value? : Option β}
    (h : found.map wrap = value?) (fallback : α) :
    some (wrap (found.getD fallback)) = value?.or (some (wrap fallback)) := by
  subst h
  cases found <;> rfl

/-- A draft makes no settings exactly when it misses a credential, and names the first. -/
theorem ofDraft_error_iff : ofDraft draft = .error problem ↔
    ∃ key, First (fun key => draft.text? key = none) credentials key ∧
      problem = .missing key := by
  simp only [ofDraft, bind_eq_error_iff, Draft.require_error_iff, Draft.require_ok_iff,
    ← Draft.text?_eq_some_iff, credentials, first_cons_iff, not_first_nil]
  -- Each of the three is there or is not.
  cases draft.text? .ikPrivateKey <;> cases draft.text? .ikPublicKey <;>
    cases draft.text? .ikUrlEndpoint <;> simp [pure, Except.pure]

/-- The settings of a draft have its values, and the usual ones where it has none. -/
theorem value?_ofDraft (h : ofDraft draft = .ok settings)
    (hk : ∀ key value, draft.value? key = some value → value.IsOf key.kind) (key : Key) :
    settings.value? key = (draft.value? key).or key.usual? := by
  obtain ⟨privateKey, hprivate, h⟩ := bind_eq_ok_iff.mp h
  obtain ⟨publicKey, hpublic, h⟩ := bind_eq_ok_iff.mp h
  obtain ⟨urlEndpoint, hendpoint, h⟩ := bind_eq_ok_iff.mp h
  cases h
  have htext : ∀ (key : Key), key.kind = .text →
      (draft.text? key).map Value.text = draft.value? key :=
    fun key he => Draft.text?_map (he ▸ hk key)
  have hword : ∀ (key : Key), key.kind = .number 64 →
      ((draft.number? key).map UInt64.ofNat).map (Value.number ∘ UInt64.toNat) = draft.value? key :=
    fun key he => Draft.number?_map (he ▸ hk key) UInt64.toNat_ofNat_of_lt
  have hport := Draft.number?_map (hk .grpcPort) UInt16.toNat_ofNat_of_lt
  have hflag := Draft.flag?_map (hk .metricsEnabled)
  cases key with
  | ikPrivateKey =>
    rw [Draft.require_ok_iff.mp hprivate]
    rfl
  | ikPublicKey =>
    rw [Draft.require_ok_iff.mp hpublic]
    rfl
  | ikUrlEndpoint =>
    rw [Draft.require_ok_iff.mp hendpoint]
    rfl
  | grpcPort => exact some_getD hport _
  | logFormat => exact some_getD (Draft.format?_map (hk .logFormat)) _
  | metricsEnabled => exact hflag.trans Option.or_none.symm
  | ikTimeoutSecs => exact some_getD (hword .ikTimeoutSecs rfl) _
  | maxWorkers => exact some_getD (hword .maxWorkers rfl) _
  | maxFileSizeMb => exact some_getD (hword .maxFileSizeMb rfl) _
  | maxFilesPerBatchDelete => exact some_getD (hword .maxFilesPerBatchDelete rfl) _
  | maxMessageSizeMb => exact some_getD (hword .maxMessageSizeMb rfl) _
  | shutdownGraceSecs => exact some_getD (hword .shutdownGraceSecs rfl) _
  | ikApiBaseUrl => exact some_getD (htext .ikApiBaseUrl rfl) _
  | ikUploadBaseUrl => exact some_getD (htext .ikUploadBaseUrl rfl) _
  | grpcHost => exact some_getD (htext .grpcHost rfl) _
  | logLevel => exact some_getD (htext .logLevel rfl) _
  | appName => exact some_getD (htext .appName rfl) _
  | environment => exact some_getD (htext .environment rfl) _

/-! ### Checking settings -/

/-- A setting has a text of blank characters only. -/
def Blank (settings : Settings) (key : Key) : Prop :=
  ∃ content, settings.value? key = some (.text content) ∧
    ∀ char ∈ content.toList, Text.isBlank char

/-- Settings are refused for the first blank credential, and for nobody serving calls when no
credential is blank. -/
theorem validated_error_iff : validated settings = .error problem ↔
    (∃ key, First settings.Blank credentials key ∧ problem = .blank key) ∨
      (∀ key ∈ credentials, ¬ settings.Blank key) ∧ settings.maxWorkers = 0 ∧
        problem = .noWorkers := by
  have hprivate : settings.Blank .ikPrivateKey ↔ Text.isAllBlank settings.ikPrivateKey := by
    simp [Blank, value?, Text.isAllBlank]
  have hpublic : settings.Blank .ikPublicKey ↔ Text.isAllBlank settings.ikPublicKey := by
    simp [Blank, value?, Text.isAllBlank]
  have hendpoint : settings.Blank .ikUrlEndpoint ↔ Text.isAllBlank settings.ikUrlEndpoint := by
    simp [Blank, value?, Text.isAllBlank]
  simp only [validated, credentials, first_cons_iff, not_first_nil, List.forall_mem_cons, hprivate,
    hpublic, hendpoint]
  by_cases hblank : Text.isAllBlank settings.ikPrivateKey
  · simp [hblank, eq_comm (a := problem)]
  by_cases hother : Text.isAllBlank settings.ikPublicKey
  · simp [hblank, hother, eq_comm (a := problem)]
  by_cases hlast : Text.isAllBlank settings.ikUrlEndpoint
  · simp [hblank, hother, hlast, eq_comm (a := problem)]
  by_cases hidle : settings.maxWorkers = 0
  · simp [hblank, hother, hlast, hidle, eq_comm (a := problem)]
  · simp [hblank, hother, hlast, hidle]

/-- Settings that are not refused stay as they are. -/
theorem validated_ok (h : validated settings = .ok other) : other = settings := by
  simp only [validated] at h
  split_ifs at h
  exact (Except.ok.inj h).symm

end MediaGateway.Settings
