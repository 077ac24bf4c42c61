import MediaGateway.Proofs.Settings.Contents
import MediaGateway.Proofs.Settings.Draft

/-!
# What variables make

Variables that can all be read and name all credentials stand for settings: what a variable gives
is kept, and the rest is as usual. The settings are made unless a credential is blank or nobody
would serve calls. The main result says which variables make settings, which settings those are,
and what the problem is with all other variables.
-/

namespace MediaGateway.Settings

variable {entries front back : List (String × String)} {entry : String × String} {draft : Draft}
  {key : Key} {value : Value} {problem : Problem} {settings other : Settings}

/-! ### Settings that variables stand for -/

/-- Settings that have what variables give them and the usual value where they give none. -/
structure Shows (entries : List (String × String)) (settings : Settings) : Prop where
  /-- What a variable gives is kept. -/
  given : ∀ key value, Gives entries key value → settings.value? key = some value
  /-- What no variable names has its usual value. -/
  usual : ∀ key, ¬ Named entries key → settings.value? key = key.usual?

/-- The values that a draft holds of variables are of the kinds of their settings. -/
theorem Told.isOf (told : Told entries draft) (key : Key) (value : Value)
    (h : draft.value? key = some value) : value.IsOf key.kind := by
  obtain ⟨entry, -, -, hw⟩ := (told key value).mp h
  exact hw.isOf

/-- The settings of a draft of variables have what these give. -/
theorem Told.shows (told : Told entries draft) (sound : Sound entries)
    (h : ofDraft draft = .ok settings) : Shows entries settings := by
  have hv := value?_ofDraft h told.isOf
  constructor
  · intro key value hg
    rw [hv key, (told key value).mpr hg, Option.some_or]
  · intro key hn
    have hnone := Option.not_isSome_iff_eq_none.mp (mt (told.isSome_iff sound).mp hn)
    rw [hv key, hnone, Option.none_or]

/-- A draft of variables misses the credentials that no variable names. -/
theorem Told.first_missing_iff (told : Told entries draft) (sound : Sound entries) :
    First (fun key => draft.text? key = none) credentials key ↔
      First (fun key => ¬ Named entries key) credentials key := by
  apply first_congr
  intro key hm
  have hkind : ∀ key ∈ credentials, key.kind = .text := by decide
  have hmap := Draft.text?_map (hkind key hm ▸ told.isOf key)
  rw [← told.isSome_iff sound, ← hmap, Option.isSome_map, Option.not_isSome_iff_eq_none]

/-! ### All variables -/

/-- Variables give a setting a text of blank characters only. -/
def GivesBlank (entries : List (String × String)) (key : Key) : Prop :=
  ∃ content, Gives entries key (.text content) ∧ ∀ char ∈ content.toList, Text.isBlank char

/-- Variables that make settings. -/
structure Accepts (entries : List (String × String)) : Prop where
  /-- All of them can be read. -/
  sound : Sound entries
  /-- All credentials are there. -/
  present : ∀ key ∈ credentials, Named entries key
  /-- None of them is blank. -/
  plain : ∀ key ∈ credentials, ¬ GivesBlank entries key
  /-- Somebody serves calls. -/
  busy : ¬ Gives entries .maxWorkers (.number 0)

/-- The problem of variables that make no settings. -/
inductive FirstProblem (entries : List (String × String)) : Problem → Prop where
  /-- The first variable that cannot be read; what stands behind it does not matter. -/
  | reading {front back : List (String × String)} {entry : String × String} {problem : Problem}
      (split : entries = front ++ entry :: back) (sound : Sound front)
      (offends : Offends front entry problem) : FirstProblem entries problem
  /-- When all are read, the first credential that is not there. -/
  | missing {key : Key} (sound : Sound entries)
      (first : First (fun key => ¬ Named entries key) credentials key) :
      FirstProblem entries (.missing key)
  /-- When all credentials are there, the first blank one. -/
  | blank {key : Key} (sound : Sound entries) (present : ∀ key ∈ credentials, Named entries key)
      (first : First (GivesBlank entries) credentials key) : FirstProblem entries (.blank key)
  /-- When none is blank, that nobody would serve calls. -/
  | idle (sound : Sound entries) (present : ∀ key ∈ credentials, Named entries key)
      (plain : ∀ key ∈ credentials, ¬ GivesBlank entries key)
      (idle : Gives entries .maxWorkers (.number 0)) : FirstProblem entries .noWorkers

/-- What variables name has the value in the settings that they give it. -/
theorem Shows.value?_iff (shows : Shows entries settings) (sound : Sound entries)
    (h : Named entries key) : settings.value? key = some value ↔ Gives entries key value := by
  obtain ⟨found, hg⟩ := sound.gives h
  have hf := shows.given key found hg
  constructor
  · intro hv
    rw [hf] at hv
    exact Option.some.inj hv ▸ hg
  · exact shows.given key value

/-- Variables leave no choice of settings. -/
theorem Shows.unique (shows : Shows entries settings) (sound : Sound entries)
    (h : Shows entries other) : settings = other := by
  apply ext_value?
  intro key
  by_cases hn : Named entries key
  · obtain ⟨value, hg⟩ := sound.gives hn
    rw [shows.given key value hg, h.given key value hg]
  · rw [shows.usual key hn, h.usual key hn]

/-- Credentials are blank in the settings when variables give them so. -/
theorem Shows.blank_iff (shows : Shows entries settings) (sound : Sound entries)
    (h : Named entries key) : settings.Blank key ↔ GivesBlank entries key :=
  exists_congr fun _ => and_congr_left fun _ => shows.value?_iff sound h

/-- Nobody serves calls when variables say so. -/
theorem Shows.idle_iff (shows : Shows entries settings) (sound : Sound entries) :
    settings.maxWorkers = 0 ↔ Gives entries .maxWorkers (.number 0) := by
  have hz : settings.maxWorkers = 0 ↔ settings.value? .maxWorkers = some (.number 0) := by
    rw [value?, Option.some_inj, Value.number.injEq, ← UInt64.toNat_inj]
    rfl
  rw [hz]
  by_cases hn : Named entries .maxWorkers
  · exact shows.value?_iff sound hn
  · rw [shows.usual _ hn]
    constructor
    · intro h
      have ht : 10 = 0 := Value.number.inj (Option.some.inj h)
      exact absurd ht (by decide)
    · exact fun hg => absurd hg.named hn

/-- Nothing is wrong with variables, or there is a first problem. -/
theorem accepts_or_firstProblem (entries : List (String × String)) :
    Accepts entries ∨ ∃ problem, FirstProblem entries problem := by
  rcases sound_or_offends entries with sound | ⟨front, entry, back, problem, split, hs, offends⟩
  · by_cases present : ∀ key ∈ credentials, Named entries key
    · by_cases plain : ∀ key ∈ credentials, ¬ GivesBlank entries key
      · by_cases hidle : Gives entries .maxWorkers (.number 0)
        · exact .inr ⟨_, .idle sound present plain hidle⟩
        · exact .inl ⟨sound, present, plain, hidle⟩
      · push Not at plain
        obtain ⟨key, first⟩ := exists_first_iff.mpr plain
        exact .inr ⟨_, .blank sound present first⟩
    · push Not at present
      obtain ⟨key, first⟩ := exists_first_iff.mpr present
      exact .inr ⟨_, .missing sound first⟩
  · exact .inr ⟨problem, .reading split hs offends⟩

/-- Variables that can be read and name all credentials stand for settings, which are checked. -/
theorem exists_shown (sound : Sound entries) (present : ∀ key ∈ credentials, Named entries key) :
    ∃ settings, Shows entries settings ∧ ofVariables entries = settings.validated := by
  obtain ⟨draft, hr, told⟩ := readVariables_sound sound
  cases hd : ofDraft draft with
  | error problem =>
    obtain ⟨key, first, -⟩ := ofDraft_error_iff.mp hd
    obtain ⟨missing, hm, hn⟩ := exists_first_iff.mp ⟨key, (told.first_missing_iff sound).mp first⟩
    exact absurd (present missing hm) hn
  | ok settings =>
    refine ⟨settings, told.shows sound hd, ?_⟩
    rw [ofVariables, hr]
    change ofDraft draft >>= validated = _
    rw [hd]
    rfl

/-- The first problem of variables is what is reported. -/
theorem FirstProblem.reported (h : FirstProblem entries problem) :
    ofVariables entries = .error problem := by
  cases h with
  | reading split sound offends =>
    rw [ofVariables, split, readVariables_unsound sound offends]
    rfl
  | missing sound first =>
    obtain ⟨draft, hr, told⟩ := readVariables_sound sound
    have hd := ofDraft_error_iff.mpr ⟨_, (told.first_missing_iff sound).mpr first, rfl⟩
    rw [ofVariables, hr]
    exact bind_eq_error_iff.mpr (.inr ⟨draft, rfl, bind_eq_error_iff.mpr (.inl hd)⟩)
  | blank sound present first =>
    obtain ⟨settings, shows, he⟩ := exists_shown sound present
    have hfirst := (first_congr fun key hk => shows.blank_iff sound (present key hk)).mpr first
    rw [he]
    exact validated_error_iff.mpr (.inl ⟨_, hfirst, rfl⟩)
  | idle sound present plain idle =>
    obtain ⟨settings, shows, he⟩ := exists_shown sound present
    rw [he]
    refine validated_error_iff.mpr (.inr ⟨fun key hk hb => ?_, (shows.idle_iff sound).mpr idle, rfl⟩)
    exact plain key hk ((shows.blank_iff sound (present key hk)).mp hb)

/-- Variables with which nothing is wrong make the settings that they stand for. -/
theorem Accepts.made (h : Accepts entries) :
    ∃ settings, Shows entries settings ∧ ofVariables entries = .ok settings := by
  obtain ⟨settings, shows, he⟩ := exists_shown h.sound h.present
  refine ⟨settings, shows, he.trans ?_⟩
  cases hv : settings.validated with
  | ok other => rw [validated_ok hv]
  | error problem =>
    rcases validated_error_iff.mp hv with ⟨key, first, -⟩ | ⟨-, idle, -⟩
    · obtain ⟨blank, hk, hb⟩ := exists_first_iff.mp ⟨key, first⟩
      have hblank := (shows.blank_iff h.sound (h.present blank hk)).mp hb
      exact absurd hblank (h.plain blank hk)
    · exact absurd ((shows.idle_iff h.sound).mp idle) h.busy

/-- Variables make settings exactly when nothing is wrong with them, and then the settings that
they stand for. -/
theorem ofVariables_ok_iff :
    ofVariables entries = .ok settings ↔ Accepts entries ∧ Shows entries settings := by
  constructor
  · intro h
    rcases accepts_or_firstProblem entries with accepts | ⟨problem, first⟩
    · obtain ⟨made, shows, hm⟩ := accepts.made
      cases h.symm.trans hm
      exact ⟨accepts, shows⟩
    · cases h.symm.trans first.reported
  · rintro ⟨accepts, shows⟩
    obtain ⟨made, hshows, hm⟩ := accepts.made
    rw [hm, hshows.unique accepts.sound shows]

/-- The problem that is reported is the first one. -/
theorem ofVariables_error_iff :
    ofVariables entries = .error problem ↔ FirstProblem entries problem := by
  constructor
  · intro h
    rcases accepts_or_firstProblem entries with accepts | ⟨found, first⟩
    · obtain ⟨made, -, hm⟩ := accepts.made
      cases h.symm.trans hm
    · cases h.symm.trans first.reported
      exact first
  · exact FirstProblem.reported

/-- A variable that names no setting can stand anywhere. -/
theorem ofVariables_unnamed (h : ∀ key, ¬ Names entry.1 key) :
    ofVariables (front ++ entry :: back) = ofVariables (front ++ back) := by
  have hr : readVariables [] (front ++ entry :: back) = readVariables [] (front ++ back) := by
    rw [readVariables_append, readVariables_append]
    simp only [readVariables_unnamed _ h]
  rw [ofVariables, ofVariables, hr]

/-- The order of variables decides nothing about what can be read. -/
theorem Sound.perm {others : List (String × String)} (h : Sound entries)
    (same : others.Perm entries) : Sound others := by
  constructor
  · refine (same.pairwise_iff ?_).mpr h.distinct
    exact fun hd key hn ho => hd key ho hn
  · exact fun entry hm => h.readable entry (same.mem_iff.mp hm)

/-- Nor about what is named. -/
theorem named_perm {others : List (String × String)} (same : others.Perm entries) :
    Named others key ↔ Named entries key :=
  exists_congr fun _ => and_congr_left fun _ => same.mem_iff

/-- Nor about what is given. -/
theorem gives_perm {others : List (String × String)} (same : others.Perm entries) :
    Gives others key value ↔ Gives entries key value :=
  exists_congr fun _ => and_congr_left fun _ => same.mem_iff

/-- Variables in another order make the same settings. -/
theorem ofVariables_perm {others : List (String × String)} (same : others.Perm entries)
    (h : ofVariables entries = .ok settings) : ofVariables others = .ok settings := by
  obtain ⟨accepts, shows⟩ := ofVariables_ok_iff.mp h
  refine ofVariables_ok_iff.mpr ⟨⟨accepts.sound.perm same, fun key hk => ?_, fun key hk => ?_, ?_⟩,
    fun key value hg => ?_, fun key hn => ?_⟩
  · exact (named_perm same).mpr (accepts.present key hk)
  · rintro ⟨content, hg, hb⟩
    exact accepts.plain key hk ⟨content, (gives_perm same).mp hg, hb⟩
  · exact mt (gives_perm same).mp accepts.busy
  · exact shows.given key value ((gives_perm same).mp hg)
  · exact shows.usual key (mt (named_perm same).mpr hn)

/-- Log formats are the values of one setting. -/
theorem Key.kind_eq_format_iff : key.kind = .format ↔ key = .logFormat := by
  cases key <;> simp [kind]

/-- What is wrong with a value tells whether a log format was asked for. -/
theorem notFormat_iff {kind : Key.Kind} {content : String} {reason : ValueProblem}
    (h : Value.read kind content = .error reason) : reason = .notFormat ↔ kind = .format := by
  cases kind with
  | text => cases h
  | number bits =>
    rw [Value.read] at h
    cases hn : Text.readNatural (Nat.pow 2 bits) content.toList with
    | ok number =>
      rw [hn] at h
      cases h
    | error problem =>
      rw [hn] at h
      cases h
      simp
  | flag =>
    rw [Value.read] at h
    split_ifs at h
    cases h
    simp
  | format =>
    rw [Value.read] at h
    split_ifs at h
    cases h
    simp

/-- The words for a value that cannot be read. They end in the variable's name as it was given,
except for a log format, where they tell the value and what is expected. -/
theorem badValue_text {reason : ValueProblem} {content : String}
    (h : Value.read key.kind content = .error reason) (given : String) :
    (Problem.badValue reason content given).text = "Invalid configuration: " ++
      if key = .logFormat then
        "unknown variant \x60" ++ content ++ "\x60, expected \x60json\x60 or \x60console\x60"
      else reason.text ++ " while parsing value '" ++ content ++ "' provided by " ++ given := by
  have hf : reason = .notFormat ↔ key = .logFormat :=
    (notFormat_iff h).trans Key.kind_eq_format_iff
  cases reason with
  | notFormat =>
    rw [if_pos (hf.mp rfl)]
    rfl
  | notFlag =>
    have hk : key ≠ .logFormat := fun he => ValueProblem.noConfusion (hf.mpr he)
    rw [if_neg hk]
    rfl
  | numeral problem =>
    have hk : key ≠ .logFormat := fun he => ValueProblem.noConfusion (hf.mpr he)
    rw [if_neg hk]
    cases problem <;> rfl

/-- Variables make settings exactly when they can all be read, all credentials are there and none
is blank, and somebody serves calls. The settings have what the variables give them and the usual
value elsewhere. All other variables have a first problem, which is reported: a variable that
cannot be read, whatever stands behind it, then a credential that is missing, then a blank one,
then that nobody would serve calls. Variables that name no setting can stand anywhere, and the
order of variables that make settings does not matter. The words for a value that cannot be read
tell the variable's name as it was given, except for a log format. -/
theorem ofVariables_decided (entries : List (String × String)) :
    ((∃ settings, ofVariables entries = .ok settings) ↔ Accepts entries) ∧
    (∀ settings, ofVariables entries = .ok settings ↔
      Accepts entries ∧ Shows entries settings) ∧
    (∀ problem, ofVariables entries = .error problem ↔ FirstProblem entries problem) ∧
    (∀ front entry back, entries = front ++ entry :: back → (∀ key, ¬ Names entry.1 key) →
      ofVariables entries = ofVariables (front ++ back)) ∧
    (∀ settings others, others.Perm entries → ofVariables entries = .ok settings →
      ofVariables others = .ok settings) ∧
    ∀ (key : Key) (content given : String) (reason : ValueProblem),
      Value.read key.kind content = .error reason →
      (Problem.badValue reason content given).text = "Invalid configuration: " ++
        if key = .logFormat then
          "unknown variant \x60" ++ content ++ "\x60, expected \x60json\x60 or \x60console\x60"
        else reason.text ++ " while parsing value '" ++ content ++ "' provided by " ++ given := by
  have hok : (∃ settings, ofVariables entries = .ok settings) ↔ Accepts entries := by
    constructor
    · rintro ⟨settings, h⟩
      exact (ofVariables_ok_iff.mp h).1
    · intro h
      obtain ⟨settings, -, hm⟩ := h.made
      exact ⟨settings, hm⟩
  refine ⟨hok, fun settings => ofVariables_ok_iff, fun problem => ofVariables_error_iff, ?_, ?_, ?_⟩
  · rintro front entry back rfl h
    exact ofVariables_unnamed h
  · exact fun settings others same h => ofVariables_perm same h
  · exact fun key content given reason h => badValue_text h given

/-- Names in any case, a plus sign, and a variable of no concern between the others. -/
theorem mixed_variables_accepted :
    let entries := [("Grpc_Port", "+6000"), ("HOME", "/root"), ("IK_URL_ENDPOINT", "e"),
      ("ik_private_key", "k"), ("IK_PUBLIC_KEY", "p")]
    Accepts entries ∧ ∃ settings, ofVariables entries = .ok settings ∧
      Shows entries settings ∧ settings.grpcPort = 6000 ∧ settings.grpcHost = "0.0.0.0" := by
  intro entries
  obtain ⟨hok, hmade, -⟩ := ofVariables_decided entries
  have hs : ∃ settings, ofVariables entries = .ok settings ∧
      settings.grpcPort = 6000 ∧ settings.grpcHost = "0.0.0.0" := ⟨_, rfl, rfl, rfl⟩
  obtain ⟨settings, hm, hport, hhost⟩ := hs
  exact ⟨hok.mp ⟨settings, hm⟩, settings, hm, ((hmade settings).mp hm).2, hport, hhost⟩

/-- The words for a log format that is none do not tell the variable's name. -/
theorem bad_format_unnamed :
    ∃ problem : Problem, ofVariables [("IK_PRIVATE_KEY", "k"), ("IK_PUBLIC_KEY", "p"),
        ("IK_URL_ENDPOINT", "e"), ("LOG_FORMAT", "xml")] = .error problem ∧
      problem = .badValue .notFormat "xml" "LOG_FORMAT" ∧
      ¬ "LOG_FORMAT".toList <:+: problem.text.toList := by
  refine ⟨_, rfl, rfl, ?_⟩
  decide +kernel

end MediaGateway.Settings
