import Mathlib.Data.List.Induction
import MediaGateway.Proofs.Settings.Value
import MediaGateway.Settings

/-!
# Drafts of variables

Variables are read one after another into a draft that holds what those in front have given. One
that names a setting once more, or has a value that is not of the setting's kind, ends the reading
with its problem, and nothing behind it matters. When all are read, the draft holds exactly what
they give, in whatever order they stand.
-/

namespace MediaGateway.Settings

variable {entries front back : List (String × String)} {entry : String × String} {draft : Draft}
  {key : Key} {value : Value} {problem : Problem}

/-- Some variable names a setting. -/
def Named (entries : List (String × String)) (key : Key) : Prop :=
  ∃ entry ∈ entries, Names entry.1 key

/-- Some variable names a setting and writes a value of its kind. -/
def Gives (entries : List (String × String)) (key : Key) (value : Value) : Prop :=
  ∃ entry ∈ entries, Names entry.1 key ∧ Writes key.kind entry.2 value

/-- Variables that can all be read. -/
structure Sound (entries : List (String × String)) : Prop where
  /-- No setting is named by two of them. -/
  distinct : entries.Pairwise fun one other => ∀ key, Names one.1 key → ¬ Names other.1 key
  /-- What names a setting writes a value of its kind. -/
  readable : ∀ entry ∈ entries, ∀ key, Names entry.1 key → ∃ value, Writes key.kind entry.2 value

/-- A variable that cannot be read behind others, and what the problem is. -/
inductive Offends (front : List (String × String)) (entry : String × String) : Problem → Prop where
  /-- Its setting has been named before, whatever its value is. -/
  | again {key : Key} (names : Names entry.1 key) (before : Named front key) :
      Offends front entry (.duplicate key)
  /-- Its value is not of its setting's kind. -/
  | unreadable {key : Key} {reason : ValueProblem} (names : Names entry.1 key)
      (new : ¬ Named front key) (bad : Value.read key.kind entry.2 = .error reason) :
      Offends front entry (.badValue reason entry.2 entry.1)

/-- The draft holds exactly what variables give. -/
def Told (entries : List (String × String)) (draft : Draft) : Prop :=
  ∀ key value, draft.value? key = some value ↔ Gives entries key value

/-! ### Reading one variable -/

/-- Whatever is given is named. -/
theorem Gives.named (h : Gives entries key value) : Named entries key := by
  obtain ⟨entry, hm, hn, -⟩ := h
  exact ⟨entry, hm, hn⟩

/-- Variables that can be read give a value to whatever they name. -/
theorem Sound.gives (sound : Sound entries) (h : Named entries key) :
    ∃ value, Gives entries key value := by
  obtain ⟨entry, hm, hn⟩ := h
  obtain ⟨value, hw⟩ := sound.readable entry hm key hn
  exact ⟨value, entry, hm, hn, hw⟩

/-- One more variable gives what it writes itself, beside what is given already. -/
theorem gives_snoc_iff : Gives (front ++ [entry]) key value ↔
    Gives front key value ∨ (Names entry.1 key ∧ Writes key.kind entry.2 value) := by
  simp only [Gives, List.mem_append, List.mem_singleton, or_and_right, exists_or, exists_eq_left]

/-- One more variable can be read behind others exactly when it names nothing that they name and
writes a value of the right kind. -/
theorem sound_snoc_iff : Sound (front ++ [entry]) ↔
    Sound front ∧ ∀ key, Names entry.1 key →
      ¬ Named front key ∧ ∃ value, Writes key.kind entry.2 value := by
  constructor
  · intro h
    have hd := List.pairwise_append.mp h.distinct
    refine ⟨⟨hd.1, fun one hm => h.readable one (List.mem_append_left _ hm)⟩, fun key hn => ?_⟩
    refine ⟨?_, h.readable entry (List.mem_append_right _ List.mem_cons_self) key hn⟩
    rintro ⟨one, hm, ho⟩
    exact hd.2.2 one hm entry List.mem_cons_self key ho hn
  · rintro ⟨sound, hk⟩
    have hapart : ∀ one ∈ front, ∀ other ∈ [entry],
        ∀ key, Names one.1 key → ¬ Names other.1 key := by
      intro one hm other ho key hone hother
      cases List.mem_singleton.mp ho
      exact (hk key hother).1 ⟨one, hm, hone⟩
    constructor
    · exact List.pairwise_append.mpr ⟨sound.distinct, List.pairwise_singleton _ _, hapart⟩
    · intro one hm key hn
      rcases List.mem_append.mp hm with hm | hm
      · exact sound.readable one hm key hn
      · cases List.mem_singleton.mp hm
        exact (hk key hn).2

/-- A variable that offends is not one that can be read. -/
theorem Offends.not_sound (h : Offends front entry problem) : ¬ Sound (front ++ [entry]) := by
  intro sound
  have hk := (sound_snoc_iff.mp sound).2
  cases h with
  | again names before => exact (hk _ names).1 before
  | unreadable names _ bad =>
    obtain ⟨value, hw⟩ := (hk _ names).2
    exact read_error_iff.mp ⟨_, bad⟩ value hw

/-- What a draft tells is named, and nothing else is. -/
theorem Told.isSome_iff (told : Told entries draft) (sound : Sound entries) :
    (draft.value? key).isSome ↔ Named entries key := by
  rw [Option.isSome_iff_exists]
  constructor
  · rintro ⟨value, hv⟩
    exact ((told key value).mp hv).named
  · intro h
    obtain ⟨value, hg⟩ := sound.gives h
    exact ⟨value, (told key value).mpr hg⟩

/-- What a draft holds after one more entry. -/
theorem Draft.value?_snoc (draft : Draft) (new key : Key) (value : Value) :
    Draft.value? (draft ++ [(new, value)]) key =
      (draft.value? key).or (if new = key then some value else none) := by
  rw [Draft.value?, Draft.value?, List.find?_append, Option.map_or, List.find?_singleton]
  split <;> simp_all

/-- Variables are read one part after the other, and the second part is not looked at when the
first has a problem. -/
theorem readVariables_append (draft : Draft) (front back : List (String × String)) :
    readVariables draft (front ++ back) =
      (readVariables draft front).bind fun next => readVariables next back := by
  induction front generalizing draft with
  | nil => rfl
  | cons entry rest ih =>
    rw [List.cons_append, readVariables, readVariables]
    cases Key.ofVariable? entry.1 with
    | none => exact ih draft
    | some key =>
      dsimp only
      split
      · rfl
      · cases Value.read key.kind entry.2 with
        | error reason => rfl
        | ok value => exact ih _

/-- A variable that names no setting changes nothing. -/
theorem readVariables_unnamed (draft : Draft) (h : ∀ key, ¬ Names entry.1 key) :
    readVariables draft (entry :: back) = readVariables draft back := by
  rw [readVariables, Key.ofVariable?_eq_none_iff.mpr h]

/-- A variable that offends has its problem reported. -/
theorem readVariables_offends (told : Told front draft) (sound : Sound front)
    (h : Offends front entry problem) : readVariables draft (entry :: back) = .error problem := by
  cases h with
  | again names before =>
    rw [readVariables, Key.ofVariable?_eq_some_iff.mpr names]
    exact if_pos ((told.isSome_iff sound).mpr before)
  | unreadable names new bad =>
    rw [readVariables, Key.ofVariable?_eq_some_iff.mpr names]
    dsimp only
    rw [if_neg (mt (told.isSome_iff sound).mp new), bad]

/-- A variable behind those that a draft holds offends or becomes part of the draft. -/
theorem readVariables_step (told : Told front draft) (sound : Sound front)
    (entry : String × String) :
    (∃ problem, Offends front entry problem) ∨
      Sound (front ++ [entry]) ∧
        ∃ next, readVariables draft [entry] = .ok next ∧ Told (front ++ [entry]) next := by
  by_cases hn : ∃ key, Names entry.1 key
  · obtain ⟨key, names⟩ := hn
    by_cases new : Named front key
    · exact .inl ⟨_, .again names new⟩
    cases hr : Value.read key.kind entry.2 with
    | error reason => exact .inl ⟨_, .unreadable names new hr⟩
    | ok value =>
      have hnone : ¬ (draft.value? key).isSome := mt (told.isSome_iff sound).mp new
      refine .inr ⟨sound_snoc_iff.mpr ⟨sound, fun other ho => ?_⟩, draft ++ [(key, value)], ?_, ?_⟩
      · cases names.unique ho
        exact ⟨new, value, read_ok_iff.mp hr⟩
      · rw [readVariables, Key.ofVariable?_eq_some_iff.mpr names]
        dsimp only
        rw [if_neg hnone, hr]
        rfl
      · intro other found
        rw [Draft.value?_snoc, gives_snoc_iff, ← told other found]
        by_cases hk : key = other
        · subst hk
          rw [Option.not_isSome_iff_eq_none.mp hnone, Option.none_or, if_pos rfl, ← read_ok_iff, hr]
          simp [names]
        · have ho : ¬ Names entry.1 other := fun h => hk (names.unique h)
          simp [hk, ho]
  · have hno : ∀ key, ¬ Names entry.1 key := not_exists.mp hn
    refine .inr ⟨sound_snoc_iff.mpr ⟨sound, fun key h => absurd h (hno key)⟩, draft, ?_, ?_⟩
    · rw [readVariables_unnamed draft hno]
      rfl
    · intro key value
      rw [told key value, gives_snoc_iff]
      simp [hno key]

/-! ### Reading all variables -/

/-- Of variables that can be read, each part from the front can be read. -/
theorem Sound.left (h : Sound (front ++ back)) : Sound front :=
  ⟨(List.pairwise_append.mp h.distinct).1,
    fun one hm => h.readable one (List.mem_append_left _ hm)⟩

/-- Variables that can be read become a draft that holds exactly what they give. -/
theorem readVariables_sound (sound : Sound entries) :
    ∃ draft, readVariables [] entries = .ok draft ∧ Told entries draft := by
  induction entries using List.reverseRecOn with
  | nil => exact ⟨[], rfl, by simp [Told, Gives, Draft.value?]⟩
  | append_singleton front entry ih =>
    obtain ⟨draft, hr, told⟩ := ih sound.left
    rcases readVariables_step told sound.left entry with ⟨problem, offends⟩ | ⟨-, next, hn, htold⟩
    · exact absurd sound offends.not_sound
    · refine ⟨next, ?_, htold⟩
      rw [readVariables_append, hr]
      exact hn

/-- The first variable that cannot be read is the problem, whatever stands behind it. -/
theorem readVariables_unsound (sound : Sound front) (h : Offends front entry problem) :
    readVariables [] (front ++ entry :: back) = .error problem := by
  obtain ⟨draft, hr, told⟩ := readVariables_sound sound
  rw [readVariables_append, hr]
  exact readVariables_offends told sound h

/-- Either all variables can be read or there is a first one that cannot. -/
theorem sound_or_offends (entries : List (String × String)) :
    Sound entries ∨ ∃ front entry back problem,
      entries = front ++ entry :: back ∧ Sound front ∧ Offends front entry problem := by
  induction entries using List.reverseRecOn with
  | nil => exact .inl ⟨List.Pairwise.nil, nofun⟩
  | append_singleton front entry ih =>
    rcases ih with sound | ⟨passed, first, back, problem, rfl, sound, offends⟩
    · obtain ⟨draft, -, told⟩ := readVariables_sound sound
      rcases readVariables_step told sound entry with ⟨problem, offends⟩ | ⟨hsound, -⟩
      · exact .inr ⟨front, entry, [], problem, rfl, sound, offends⟩
      · exact .inl hsound
    · exact .inr ⟨passed, first, back ++ [entry], problem, by simp, sound, offends⟩

end MediaGateway.Settings
