import Mathlib.Data.List.TakeWhile
import MediaGateway.Proofs.Json.Numeral

/-!
# How values are spelled

The grammar of values says nothing of readers: a value is a word, a number, a text
between quotes, or values in brackets or braces, with blanks between its parts. A
value is read from octets exactly when they spell it, with nothing but blanks
around it.
-/

namespace MediaGateway.Json

/-- Octets that are blank throughout. -/
def AllBlank (bytes : Bytes) : Prop := ∀ octet ∈ bytes, isBlank octet = true

/-- The octets that make an escape with the backslash in front of them. -/
def escapeMarks : List UInt8 := [0x22, 0x5C, 0x2F, 0x62, 0x66, 0x6E, 0x72, 0x74]

/-- Octets that may stand between quotes. -/
inductive IsInside : Bytes → Prop where
  /-- Nothing. -/
  | done : IsInside []
  /-- An octet that stands for itself. -/
  | plain {octet : UInt8} {rest : Bytes} (control : ¬octet < 0x20) (quote : octet ≠ 0x22)
    (backslash : octet ≠ 0x5C) (more : IsInside rest) : IsInside (octet :: rest)
  /-- A short escape. -/
  | short {mark : UInt8} {rest : Bytes} (known : mark ∈ escapeMarks) (more : IsInside rest) :
    IsInside (0x5C :: mark :: rest)
  /-- A long escape. -/
  | long {a b c d : UInt8} {rest : Bytes}
    (hex : ∀ octet ∈ [a, b, c, d], (hexOctet? octet).isSome = true) (more : IsInside rest) :
    IsInside (0x5C :: 0x75 :: a :: b :: c :: d :: rest)

/-- The parts that values are spelled in. -/
inductive Part where
  /-- One value. -/
  | value (written : Written)
  /-- The values of a list, at least one. -/
  | items (items : List Written)
  /-- The named values of a record, at least one. -/
  | entries (entries : List (Bytes × Written))

/-- The octets that write a part. -/
inductive Spells : Part → Bytes → Prop where
  /-- Nothing. -/
  | null : Spells (.value .null) [0x6E, 0x75, 0x6C, 0x6C]
  /-- Truth. -/
  | truth : Spells (.value (.flag true)) [0x74, 0x72, 0x75, 0x65]
  /-- Falsehood. -/
  | falsehood : Spells (.value (.flag false)) [0x66, 0x61, 0x6C, 0x73, 0x65]
  /-- A number. -/
  | numeral {content : Numeral} {bytes : Bytes} (h : content.Spells bytes) :
    Spells (.value (.numeral content)) bytes
  /-- A text between quotes. -/
  | quoted {inside : Bytes} (h : IsInside inside) :
    Spells (.value (.quoted inside)) (0x22 :: (inside ++ [0x22]))
  /-- A list of nothing. -/
  | emptyList {blanks : Bytes} (h : AllBlank blanks) :
    Spells (.value (.list [])) (0x5B :: (blanks ++ [0x5D]))
  /-- A list. -/
  | list {items : List Written} {bytes : Bytes} (h : Spells (.items items) bytes) :
    Spells (.value (.list items)) (0x5B :: (bytes ++ [0x5D]))
  /-- A record of nothing. -/
  | emptyRecord {blanks : Bytes} (h : AllBlank blanks) :
    Spells (.value (.record [])) (0x7B :: (blanks ++ [0x7D]))
  /-- A record. -/
  | record {entries : List (Bytes × Written)} {bytes : Bytes} (h : Spells (.entries entries) bytes) :
    Spells (.value (.record entries)) (0x7B :: (bytes ++ [0x7D]))
  /-- The last value of a list. -/
  | lastItem {item : Written} {before bytes after : Bytes} (hb : AllBlank before)
    (h : Spells (.value item) bytes) (ha : AllBlank after) :
    Spells (.items [item]) (before ++ (bytes ++ after))
  /-- A value of a list with more behind it. -/
  | nextItem {item : Written} {items : List Written} {before bytes after more : Bytes}
    (hb : AllBlank before) (h : Spells (.value item) bytes) (ha : AllBlank after)
    (hm : Spells (.items items) more) :
    Spells (.items (item :: items)) (before ++ (bytes ++ (after ++ 0x2C :: more)))
  /-- The last named value of a record. -/
  | lastEntry {name : Bytes} {value : Written} {before middle inner bytes after : Bytes}
    (hb : AllBlank before) (hn : IsInside name) (hm : AllBlank middle) (hi : AllBlank inner)
    (h : Spells (.value value) bytes) (ha : AllBlank after) :
    Spells (.entries [(name, value)])
      (before ++ 0x22 :: (name ++ 0x22 :: (middle ++ 0x3A :: (inner ++ (bytes ++ after)))))
  /-- A named value of a record with more behind it. -/
  | nextEntry {name : Bytes} {value : Written} {entries : List (Bytes × Written)}
    {before middle inner bytes after more : Bytes} (hb : AllBlank before) (hn : IsInside name)
    (hm : AllBlank middle) (hi : AllBlank inner) (h : Spells (.value value) bytes)
    (ha : AllBlank after) (hr : Spells (.entries entries) more) :
    Spells (.entries ((name, value) :: entries))
      (before ++ 0x22 ::
        (name ++ 0x22 :: (middle ++ 0x3A :: (inner ++ (bytes ++ (after ++ 0x2C :: more))))))

/-- Octets that write a value with nothing but blanks around it. -/
def Written.SpelledBy (written : Written) (bytes : Bytes) : Prop :=
  ∃ before inner after, AllBlank before ∧ Spells (.value written) inner ∧ AllBlank after ∧
    bytes = before ++ (inner ++ after)

/-! ## Blanks -/

/-- Octets that begin with none that is blank are not skipped. -/
theorem skipBlank_cons {octet : UInt8} (h : isBlank octet = false) (rest : Bytes) :
    skipBlank (octet :: rest) = octet :: rest := by
  rw [skipBlank, List.dropWhile_cons_of_neg (ne_true_of_eq_false h)]

/-- Blanks are skipped. -/
theorem skipBlank_append {blanks : Bytes} (h : AllBlank blanks) (rest : Bytes) :
    skipBlank (blanks ++ rest) = skipBlank rest := by
  rw [skipBlank, List.dropWhile_append_of_pos h, skipBlank]

/-- What is skipped is blank. -/
theorem exists_skipBlank (bytes : Bytes) :
    ∃ blanks, AllBlank blanks ∧ bytes = blanks ++ skipBlank bytes :=
  ⟨bytes.takeWhile isBlank, fun octet member => List.all_eq_true.mp List.all_takeWhile octet member,
    List.takeWhile_append_dropWhile.symm⟩

/-- Nothing is left of octets exactly when they are blank. -/
theorem skipBlank_eq_nil_iff {bytes : Bytes} : skipBlank bytes = [] ↔ AllBlank bytes :=
  List.dropWhile_eq_nil_iff

/-! ## Between quotes -/

/-- What may stand between quotes is read up to the quote that closes it. -/
theorem takeQuoted_append {inside : Bytes} (h : IsInside inside) (seen rest : Bytes) :
    takeQuoted seen (inside ++ 0x22 :: rest) = some (seen.reverse ++ inside, rest) := by
  induction h generalizing seen with
  | done => rw [List.nil_append, takeQuoted, List.append_nil]
  | plain control quote backslash more ih =>
    rename_i octet inside
    have hn : ¬(octet < 0x20 ∨ octet = 0x5C) := fun hs => hs.elim control backslash
    rw [List.cons_append, takeQuoted, if_neg hn, ih, List.reverse_cons, List.append_assoc,
      List.singleton_append]
    · exact quote
    · intro a b c d more he
      exact absurd he backslash
    · intro mark more he
      exact absurd he backslash
  | short known more ih =>
    rename_i mark inside
    have hm : mark ≠ 0x75 := by
      rintro rfl
      exact absurd known (by decide)
    have hk : [0x22, 0x5C, 0x2F, 0x62, 0x66, 0x6E, 0x72, 0x74].contains mark = true :=
      List.contains_iff_mem.mpr known
    rw [List.cons_append, List.cons_append, takeQuoted, if_pos hk, ih]
    · simp only [List.reverse_cons, List.append_assoc, List.nil_append, List.cons_append]
    · intro a b c d more he
      exact absurd he hm
  | long hex more ih =>
    rename_i a b c d inside
    have hh : ([a, b, c, d].all fun octet => (hexOctet? octet).isSome) = true :=
      List.all_eq_true.mpr hex
    simp only [List.cons_append]
    rw [takeQuoted, if_pos hh, ih]
    simp only [List.reverse_cons, List.append_assoc, List.nil_append, List.cons_append]

/-- What is read up to a quote may stand between quotes. -/
theorem takeQuoted_eq {seen bytes found rest : Bytes}
    (h : takeQuoted seen bytes = some (found, rest)) :
    ∃ inside, IsInside inside ∧ found = seen.reverse ++ inside ∧
      bytes = inside ++ 0x22 :: rest := by
  fun_induction takeQuoted seen bytes with
  | case1 => cases h
  | case2 seen after =>
    obtain ⟨rfl, rfl⟩ := Prod.mk.inj (Option.some.inj h)
    exact ⟨[], .done, (List.append_nil _).symm, rfl⟩
  | case3 seen a b c d after hex ih =>
    obtain ⟨inside, hi, rfl, rfl⟩ := ih h
    refine ⟨_, .long (List.all_eq_true.mp hex) hi, ?_, rfl⟩
    simp only [List.reverse_cons, List.append_assoc, List.nil_append, List.cons_append]
  | case4 => cases h
  | case5 seen mark after _ known ih =>
    obtain ⟨inside, hi, rfl, rfl⟩ := ih h
    refine ⟨_, .short (List.contains_iff_mem.mp known) hi, ?_, rfl⟩
    simp only [List.reverse_cons, List.append_assoc, List.nil_append, List.cons_append]
  | case6 => cases h
  | case7 => cases h
  | case8 seen octet after quote _ _ plain ih =>
    obtain ⟨inside, hi, rfl, rfl⟩ := ih h
    refine ⟨_, .plain (fun hc => plain (.inl hc)) quote (fun hc => plain (.inr hc)) hi, ?_, rfl⟩
    rw [List.reverse_cons, List.append_assoc, List.singleton_append]

/-! ## What is spelled is read -/

/-- A digit is not blank. -/
theorem isBlank_of_isDigit {octet : UInt8} (h : isDigit octet = true) : isBlank octet = false := by
  have hn : ∀ other : UInt8, isDigit other = false → octet ≠ other := by
    rintro other ho rfl
    exact absurd (h.symm.trans ho) Bool.noConfusion
  simp only [isBlank, hn 0x20 rfl, hn 0x0A rfl, hn 0x0D rfl, hn 0x09 rfl, decide_false,
    Bool.or_self]

/-- A blank or the end of a part cannot go on with a number. -/
theorem endsNumber_append {blanks : Bytes} (h : AllBlank blanks) {mark : UInt8}
    (hm : mark = 0x2C ∨ mark = 0x5D ∨ mark = 0x7D) (rest : Bytes) :
    EndsNumber (blanks ++ mark :: rest) := by
  intro octet ho
  cases blanks with
  | nil =>
    obtain rfl := Option.some.inj ho
    rcases hm with rfl | rfl | rfl <;> decide
  | cons blank blanks =>
    obtain rfl := Option.some.inj ho
    have hb := h blank List.mem_cons_self
    simp only [isBlank, Bool.or_eq_true, decide_eq_true_eq] at hb
    rcases hb with ((rfl | rfl) | rfl) | rfl <;> decide

/-- Blanks end a number, and so does the end of all. -/
theorem endsNumber_of_blank {blanks : Bytes} (h : AllBlank blanks) : EndsNumber blanks := by
  intro octet ho
  have he := endsNumber_append h (.inl rfl : (0x2C : UInt8) = 0x2C ∨ _) []
  refine he octet ?_
  rw [List.head?_append, Option.mem_def.mp ho]
  rfl

/-- Blanks in front of a value are passed over. -/
theorem takeValue_blank {blanks : Bytes} (h : AllBlank blanks) (fuel : Nat) (bytes : Bytes) :
    takeValue fuel (blanks ++ bytes) = takeValue fuel bytes := by
  cases fuel with
  | zero => rfl
  | succ fuel => rw [takeValue, takeValue, skipBlank_append h]

/-- Blanks in front of the values of a list are passed over. -/
theorem takeItems_blank {blanks : Bytes} (h : AllBlank blanks) (fuel : Nat) (bytes : Bytes) :
    takeItems fuel (blanks ++ bytes) = takeItems fuel bytes := by
  cases fuel with
  | zero => rfl
  | succ fuel => rw [takeItems, takeItems, takeValue_blank h]

/-- Blanks in front of the named values of a record are passed over. -/
theorem takeEntries_blank {blanks : Bytes} (h : AllBlank blanks) (fuel : Nat) (bytes : Bytes) :
    takeEntries fuel (blanks ++ bytes) = takeEntries fuel bytes := by
  cases fuel with
  | zero => rfl
  | succ fuel => rw [takeEntries, takeEntries, skipBlank_append h]

/-- A digit begins a number without a sign. -/
theorem takeValue_digit {octet : UInt8} (h : isDigit octet = true) (fuel : Nat) (more : Bytes) :
    takeValue (fuel + 1) (octet :: more) =
      (takeNumeral false (octet :: more)).map fun (numeral, rest) => (.numeral numeral, rest) := by
  have hn : ∀ {other : UInt8} {rest : Bytes}, octet :: more = other :: rest →
      isDigit other = false → False := by
    intro other rest he ho
    rw [(List.cons.inj he).1] at h
    exact absurd (h.symm.trans ho) Bool.noConfusion
  rw [takeValue.eq_def]
  dsimp only
  rw [skipBlank_cons (isBlank_of_isDigit h)]
  split
  next he => cases he
  next he => exact (hn he rfl).elim
  next he => exact (hn he rfl).elim
  next he => exact (hn he rfl).elim
  next he => exact (hn he rfl).elim
  next he => exact (hn he rfl).elim
  next he => exact (hn he rfl).elim
  next he => exact (hn he rfl).elim
  next => rfl

/-- A value begins with an octet that is neither blank nor the end of a list. -/
theorem Spells.begins {written : Written} {bytes : Bytes} (h : Spells (.value written) bytes) :
    ∃ octet more, bytes = octet :: more ∧ isBlank octet = false ∧ octet ≠ 0x5D := by
  cases h with
  | null => exact ⟨_, _, rfl, rfl, by decide⟩
  | truth => exact ⟨_, _, rfl, rfl, by decide⟩
  | falsehood => exact ⟨_, _, rfl, rfl, by decide⟩
  | quoted => exact ⟨_, _, rfl, rfl, by decide⟩
  | emptyList => exact ⟨_, _, rfl, rfl, by decide⟩
  | list => exact ⟨_, _, rfl, rfl, by decide⟩
  | emptyRecord => exact ⟨_, _, rfl, rfl, by decide⟩
  | record => exact ⟨_, _, rfl, rfl, by decide⟩
  | numeral h =>
    obtain ⟨unsigned, hu, rfl⟩ := h
    obtain ⟨octet, more, rfl, hd⟩ := hu.begins
    split
    · exact ⟨_, _, rfl, rfl, by decide⟩
    · refine ⟨_, _, rfl, isBlank_of_isDigit hd, ?_⟩
      rintro rfl
      exact absurd hd (by decide)

/-- The values of a list begin with one, so they do not end it at once. -/
theorem Spells.items_begin {items : List Written} {bytes : Bytes}
    (h : Spells (.items items) bytes) (tail : Bytes) :
    ∃ octet more, skipBlank (bytes ++ tail) = octet :: more ∧ octet ≠ 0x5D := by
  cases h with
  | lastItem hb h ha =>
    obtain ⟨octet, more, rfl, hn, he⟩ := h.begins
    exact ⟨octet, _, by rw [List.append_assoc, skipBlank_append hb]; exact skipBlank_cons hn _, he⟩
  | nextItem hb h ha hm =>
    obtain ⟨octet, more, rfl, hn, he⟩ := h.begins
    exact ⟨octet, _, by rw [List.append_assoc, skipBlank_append hb]; exact skipBlank_cons hn _, he⟩

/-- The named values of a record begin with the quote of a name. -/
theorem Spells.entries_begin {entries : List (Bytes × Written)} {bytes : Bytes}
    (h : Spells (.entries entries) bytes) (tail : Bytes) :
    ∃ more, skipBlank (bytes ++ tail) = 0x22 :: more := by
  cases h with
  | lastEntry hb =>
    exact ⟨_, by rw [List.append_assoc, skipBlank_append hb]; exact skipBlank_cons rfl _⟩
  | nextEntry hb =>
    exact ⟨_, by rw [List.append_assoc, skipBlank_append hb]; exact skipBlank_cons rfl _⟩

/-- What the readers make of octets that write a part, with enough fuel and whatever may follow. -/
def IsRead : Part → Bytes → Prop
  | .value written, bytes => ∀ fuel rest, 2 * bytes.length ≤ fuel → EndsNumber rest →
    takeValue fuel (bytes ++ rest) = some (written, rest)
  | .items items, bytes => ∀ fuel rest, 2 * bytes.length < fuel →
    takeItems fuel (bytes ++ 0x5D :: rest) = some (items, rest)
  | .entries entries, bytes => ∀ fuel rest, 2 * bytes.length < fuel →
    takeEntries fuel (bytes ++ 0x7D :: rest) = some (entries, rest)

/-- The readers step over a value of a list, and what follows it decides how they go on. -/
theorem takeItems_step {item : Written} {bytes after : Bytes} (hr : IsRead (.value item) bytes)
    (ha : AllBlank after) {fuel : Nat} (hf : 2 * bytes.length ≤ fuel) {mark : UInt8}
    (hm : mark = 0x2C ∨ mark = 0x5D) (rest : Bytes) :
    takeItems (fuel + 1) (bytes ++ (after ++ mark :: rest)) =
      if mark = 0x2C then (takeItems fuel rest).map fun (items, rest) => (item :: items, rest)
      else some ([item], rest) := by
  have he : EndsNumber (after ++ mark :: rest) :=
    endsNumber_append ha (hm.imp_right .inl) rest
  rw [takeItems, hr fuel _ hf he]
  dsimp only
  rw [skipBlank_append ha]
  rcases hm with rfl | rfl
  · rw [skipBlank_cons rfl, if_pos rfl]
    rfl
  · rw [skipBlank_cons rfl, if_neg (by decide)]
    rfl

/-- The readers step over a named value of a record, and what follows it decides how they go on. -/
theorem takeEntries_step {name : Bytes} {value : Written} {middle inner bytes after : Bytes}
    (hn : IsInside name) (hb : AllBlank middle) (hi : AllBlank inner)
    (hr : IsRead (.value value) bytes) (ha : AllBlank after) {fuel : Nat}
    (hf : 2 * bytes.length ≤ fuel) {mark : UInt8} (hm : mark = 0x2C ∨ mark = 0x7D) (rest : Bytes) :
    takeEntries (fuel + 1) (0x22 ::
        (name ++ 0x22 :: (middle ++ 0x3A :: (inner ++ (bytes ++ (after ++ mark :: rest)))))) =
      if mark = 0x2C then
        (takeEntries fuel rest).map fun (entries, rest) => ((name, value) :: entries, rest)
      else some ([(name, value)], rest) := by
  have he : EndsNumber (after ++ mark :: rest) :=
    endsNumber_append ha (hm.imp_right .inr) rest
  rw [takeEntries, skipBlank_cons rfl]
  split
  next more hq =>
    obtain rfl := (List.cons.inj hq).2
    rw [takeQuoted_append hn]
    dsimp only
    rw [skipBlank_append hb, skipBlank_cons rfl]
    split
    next more hc =>
      obtain rfl := (List.cons.inj hc).2
      rw [takeValue_blank hi, hr fuel _ hf he]
      dsimp only
      rw [skipBlank_append ha]
      rcases hm with rfl | rfl
      · rw [skipBlank_cons rfl, if_pos rfl]
        rfl
      · rw [skipBlank_cons rfl, if_neg (by decide)]
        rfl
    next hc => exact absurd rfl (hc _)
  next hq => exact absurd rfl (hq _)

/-- A bracket begins a list. -/
theorem takeValue_list (fuel : Nat) (bytes : Bytes) :
    takeValue (fuel + 1) (0x5B :: bytes) =
      match skipBlank bytes with
      | 0x5D :: rest => some (.list [], rest)
      | rest => (takeItems fuel rest).map fun (items, rest) => (.list items, rest) := rfl

/-- A brace begins a record. -/
theorem takeValue_record (fuel : Nat) (bytes : Bytes) :
    takeValue (fuel + 1) (0x7B :: bytes) =
      match skipBlank bytes with
      | 0x7D :: rest => some (.record [], rest)
      | rest => (takeEntries fuel rest).map fun (entries, rest) => (.record entries, rest) := rfl

/-- A value is read if it is with one unit of fuel for its first octet and two for each other one. -/
theorem isRead_value {written : Written} {octet : UInt8} {octets : Bytes}
    (h : ∀ fuel rest, 2 * octets.length < fuel → EndsNumber rest →
      takeValue (fuel + 1) (octet :: (octets ++ rest)) = some (written, rest)) :
    IsRead (.value written) (octet :: octets) := by
  intro fuel rest hf ends
  rw [List.length_cons] at hf
  obtain ⟨less, rfl⟩ : ∃ less, fuel = less + 1 := ⟨fuel - 1, by omega⟩
  exact h less rest (by omega) ends

/-- A number that is spelled is read. -/
theorem Numeral.Spells.isRead {numeral : Numeral} {bytes : Bytes} (h : numeral.Spells bytes) :
    IsRead (.value (.numeral numeral)) bytes := by
  obtain ⟨unsigned, hu, rfl⟩ := h
  have ht : ∀ rest, EndsNumber rest → (takeNumeral numeral.isNegative (unsigned ++ rest)).map
      (fun (taken, rest) => (Written.numeral taken, rest)) = some (.numeral numeral, rest) :=
    fun rest ends => congrArg (Option.map _) (takeNumeral_append hu ends)
  split
  next hn =>
    rw [hn] at ht
    exact isRead_value fun _ rest _ ends => ht rest ends
  next hn =>
    rw [eq_false_of_ne_true hn] at ht
    obtain ⟨octet, tail, rfl, hd⟩ := hu.begins
    refine isRead_value fun fuel rest _ ends => ?_
    rw [takeValue_digit hd]
    exact ht rest ends

/-- A list is read if its values are. -/
theorem isRead_list {items : List Written} {bytes : Bytes} (h : Spells (.items items) bytes)
    (ih : IsRead (.items items) bytes) :
    IsRead (.value (.list items)) (0x5B :: (bytes ++ [0x5D])) := by
  refine isRead_value fun fuel rest hf _ => ?_
  rw [List.length_append, List.length_singleton] at hf
  have hi := ih fuel rest (by omega)
  obtain ⟨blanks, hb, hs⟩ := exists_skipBlank (bytes ++ 0x5D :: rest)
  obtain ⟨octet, tail, he, hn⟩ := h.items_begin (0x5D :: rest)
  rw [hs, takeItems_blank hb, he] at hi
  rw [List.append_assoc, List.singleton_append, takeValue_list, he]
  split
  next ho => exact absurd (List.cons.inj ho).1 hn
  next => rw [hi, Option.map_some]

/-- A record is read if its named values are. -/
theorem isRead_record {entries : List (Bytes × Written)} {bytes : Bytes}
    (h : Spells (.entries entries) bytes) (ih : IsRead (.entries entries) bytes) :
    IsRead (.value (.record entries)) (0x7B :: (bytes ++ [0x7D])) := by
  refine isRead_value fun fuel rest hf _ => ?_
  rw [List.length_append, List.length_singleton] at hf
  have hi := ih fuel rest (by omega)
  obtain ⟨blanks, hb, hs⟩ := exists_skipBlank (bytes ++ 0x7D :: rest)
  obtain ⟨tail, he⟩ := h.entries_begin (0x7D :: rest)
  rw [hs, takeEntries_blank hb, he] at hi
  rw [List.append_assoc, List.singleton_append, takeValue_record, he]
  split
  next ho => exact absurd (List.cons.inj ho).1 (by decide)
  next => rw [hi, Option.map_some]

/-- What is spelled is read. -/
theorem Spells.isRead {part : Part} {bytes : Bytes} (h : Spells part bytes) :
    IsRead part bytes := by
  -- The fuel of a reader is spent on the octets of the part, two for each.
  have more : ∀ {fuel need : Nat}, need < fuel → ∃ less, fuel = less + 1 ∧ need ≤ less :=
    fun {fuel need} h => ⟨fuel - 1, by omega, by omega⟩
  induction h with
  | null => exact isRead_value fun _ _ _ _ => rfl
  | truth => exact isRead_value fun _ _ _ _ => rfl
  | falsehood => exact isRead_value fun _ _ _ _ => rfl
  | numeral h => exact h.isRead
  | quoted hi =>
    refine isRead_value fun fuel rest _ _ => ?_
    rw [List.append_assoc, List.singleton_append]
    exact congrArg (Option.map _) (takeQuoted_append hi [] rest)
  | emptyList hb =>
    refine isRead_value fun fuel rest _ _ => ?_
    rw [List.append_assoc, List.singleton_append, takeValue_list, skipBlank_append hb,
      skipBlank_cons rfl]
    rfl
  | list h ih => exact isRead_list h ih
  | emptyRecord hb =>
    refine isRead_value fun fuel rest _ _ => ?_
    rw [List.append_assoc, List.singleton_append, takeValue_record, skipBlank_append hb,
      skipBlank_cons rfl]
    rfl
  | record h ih => exact isRead_record h ih
  | lastItem hb h ha ih =>
    intro fuel rest hf
    rw [List.length_append, List.length_append] at hf
    obtain ⟨less, rfl, _⟩ := more hf
    rw [List.append_assoc, List.append_assoc, takeItems_blank hb,
      takeItems_step ih ha (by omega) (.inr rfl), if_neg (by decide)]
  | nextItem hb h ha hm ih ihMore =>
    intro fuel rest hf
    simp only [List.length_append, List.length_cons] at hf
    obtain ⟨less, rfl, _⟩ := more hf
    rw [List.append_assoc, List.append_assoc, List.append_assoc, List.cons_append,
      takeItems_blank hb, takeItems_step ih ha (by omega) (.inl rfl), if_pos rfl,
      ihMore less rest (by omega), Option.map_some]
  | lastEntry hb hn hm hi h ha ih =>
    intro fuel rest hf
    simp only [List.length_append, List.length_cons] at hf
    obtain ⟨less, rfl, _⟩ := more hf
    simp only [List.append_assoc, List.cons_append]
    rw [takeEntries_blank hb, takeEntries_step hn hm hi ih ha (by omega) (.inr rfl),
      if_neg (by decide)]
  | nextEntry hb hn hm hi h ha hr ih ihMore =>
    intro fuel rest hf
    simp only [List.length_append, List.length_cons] at hf
    obtain ⟨less, rfl, _⟩ := more hf
    simp only [List.append_assoc, List.cons_append]
    rw [takeEntries_blank hb, takeEntries_step hn hm hi ih ha (by omega) (.inl rfl), if_pos rfl,
      ihMore less rest (by omega), Option.map_some]

/-! ## What is read is spelled -/

/-- The octets that a reader took write the part that it read. -/
def IsSpelled (fuel : Nat) : Part → Prop
  | .value written => ∀ bytes rest, takeValue fuel bytes = some (written, rest) →
    ∃ blanks inner, AllBlank blanks ∧ Spells (.value written) inner ∧
      bytes = blanks ++ (inner ++ rest)
  | .items items => ∀ bytes rest, takeItems fuel bytes = some (items, rest) →
    ∃ inner, Spells (.items items) inner ∧ bytes = inner ++ 0x5D :: rest
  | .entries entries => ∀ bytes rest, takeEntries fuel bytes = some (entries, rest) →
    ∃ inner, Spells (.entries entries) inner ∧ bytes = inner ++ 0x7D :: rest

/-- The rest of a word is taken as it stands. -/
theorem takeWord_eq {word bytes rest : Bytes} {value written : Written}
    (h : takeWord word value bytes = some (written, rest)) :
    written = value ∧ bytes = word ++ rest := by
  rw [takeWord] at h
  split at h
  next ht =>
    obtain ⟨rfl, rfl⟩ := Prod.mk.inj (Option.some.inj h)
    refine ⟨rfl, ?_⟩
    calc bytes = bytes.take word.length ++ bytes.drop word.length :=
          (List.take_append_drop ..).symm
      _ = word ++ bytes.drop word.length := by rw [ht]
  · cases h

/-- A number that is read is spelled, with its sign in front. -/
theorem spells_numeral {isNegative : Bool} {bytes rest : Bytes} {written : Written}
    (h : ((takeNumeral isNegative bytes).map fun (numeral, rest) => (Written.numeral numeral, rest)) =
      some (written, rest)) :
    ∃ inner, Spells (.value written) inner ∧
      (if isNegative then 0x2D :: bytes else bytes) = inner ++ rest := by
  obtain ⟨⟨numeral, after⟩, ht, he⟩ := Option.map_eq_some_iff.mp h
  obtain ⟨rfl, rfl⟩ := Prod.mk.inj he
  obtain ⟨hs, front, hu, rfl⟩ := takeNumeral_eq ht
  refine ⟨_, .numeral ⟨front, hu, rfl⟩, ?_⟩
  rw [hs]
  cases isNegative <;> rfl

/-- What is read with more fuel is spelled when what is read with less is. -/
theorem isSpelled_value {fuel : Nat} (hi : ∀ items, IsSpelled fuel (.items items))
    (he : ∀ entries, IsSpelled fuel (.entries entries)) (written : Written) :
    IsSpelled (fuel + 1) (.value written) := by
  intro bytes rest h
  obtain ⟨blanks, hb, hs⟩ := exists_skipBlank bytes
  have hw : ∀ {inner : Bytes}, Spells (.value written) inner → skipBlank bytes = inner ++ rest →
      ∃ blanks inner, AllBlank blanks ∧ Spells (.value written) inner ∧
        bytes = blanks ++ (inner ++ rest) := fun {inner} spelled hq =>
    ⟨blanks, inner, hb, spelled, by rw [← hq]; exact hs⟩
  rw [takeValue] at h
  generalize skipBlank bytes = behind at h hw
  split at h
  next => cases h
  next =>
    obtain ⟨rfl, rfl⟩ := takeWord_eq h
    exact hw .null rfl
  next =>
    obtain ⟨rfl, rfl⟩ := takeWord_eq h
    exact hw .truth rfl
  next =>
    obtain ⟨rfl, rfl⟩ := takeWord_eq h
    exact hw .falsehood rfl
  next =>
    obtain ⟨⟨inside, after⟩, ht, hp⟩ := Option.map_eq_some_iff.mp h
    obtain ⟨rfl, rfl⟩ := Prod.mk.inj hp
    obtain ⟨found, hf, rfl, rfl⟩ := takeQuoted_eq ht
    exact hw (.quoted hf) (by rw [List.cons_append, List.append_assoc]; rfl)
  next =>
    obtain ⟨inner, spelled, hq⟩ := spells_numeral h
    exact hw spelled hq
  next more =>
    obtain ⟨inside, hk, hm⟩ := exists_skipBlank more
    split at h
    next after hq =>
      obtain ⟨rfl, rfl⟩ := Prod.mk.inj (Option.some.inj h)
      rw [hq] at hm
      exact hw (.emptyList hk) (by rw [hm, List.cons_append, List.append_assoc]; rfl)
    next =>
      obtain ⟨⟨items, after⟩, ht, hp⟩ := Option.map_eq_some_iff.mp h
      obtain ⟨rfl, rfl⟩ := Prod.mk.inj hp
      obtain ⟨inner, spelled, hq⟩ := hi items more after (by rw [hm, takeItems_blank hk]; exact ht)
      exact hw (.list spelled) (by rw [hq, List.cons_append, List.append_assoc]; rfl)
  next more =>
    obtain ⟨inside, hk, hm⟩ := exists_skipBlank more
    split at h
    next after hq =>
      obtain ⟨rfl, rfl⟩ := Prod.mk.inj (Option.some.inj h)
      rw [hq] at hm
      exact hw (.emptyRecord hk) (by rw [hm, List.cons_append, List.append_assoc]; rfl)
    next =>
      obtain ⟨⟨entries, after⟩, ht, hp⟩ := Option.map_eq_some_iff.mp h
      obtain ⟨rfl, rfl⟩ := Prod.mk.inj hp
      obtain ⟨inner, spelled, hq⟩ :=
        he entries more after (by rw [hm, takeEntries_blank hk]; exact ht)
      exact hw (.record spelled) (by rw [hq, List.cons_append, List.append_assoc]; rfl)
  next =>
    obtain ⟨inner, spelled, hq⟩ := spells_numeral h
    exact hw spelled hq

/-- So are the values of a list, -/
theorem isSpelled_items {fuel : Nat} (hv : ∀ written, IsSpelled fuel (.value written))
    (hi : ∀ items, IsSpelled fuel (.items items)) (items : List Written) :
    IsSpelled (fuel + 1) (.items items) := by
  intro bytes rest h
  rw [takeItems] at h
  split at h
  · cases h
  next item behind ht =>
    obtain ⟨before, inner, hb, spelled, rfl⟩ := hv item bytes behind ht
    obtain ⟨after, ha, hs⟩ := exists_skipBlank behind
    split at h
    next more hq =>
      obtain ⟨⟨others, last⟩, hm, hp⟩ := Option.map_eq_some_iff.mp h
      obtain ⟨rfl, rfl⟩ := Prod.mk.inj hp
      obtain ⟨octets, spelledMore, rfl⟩ := hi others more last hm
      refine ⟨_, .nextItem hb spelled ha spelledMore, ?_⟩
      rw [hs, hq]
      simp only [List.append_assoc, List.cons_append]
    next more hq =>
      obtain ⟨rfl, rfl⟩ := Prod.mk.inj (Option.some.inj h)
      refine ⟨_, .lastItem hb spelled ha, ?_⟩
      rw [hs, hq]
      simp only [List.append_assoc]
    · cases h

/-- and the named values of a record. -/
theorem isSpelled_entries {fuel : Nat} (hv : ∀ written, IsSpelled fuel (.value written))
    (he : ∀ entries, IsSpelled fuel (.entries entries)) (entries : List (Bytes × Written)) :
    IsSpelled (fuel + 1) (.entries entries) := by
  intro bytes rest h
  obtain ⟨before, hb, hs⟩ := exists_skipBlank bytes
  rw [takeEntries] at h
  split at h
  next behind hq =>
    rw [hq] at hs
    split at h
    · cases h
    next name afterName hn =>
      obtain ⟨inside, hin, rfl, rfl⟩ := takeQuoted_eq hn
      obtain ⟨middle, hm, hms⟩ := exists_skipBlank afterName
      split at h
      next afterColon hc =>
        rw [hc] at hms
        split at h
        · cases h
        next value afterValue ht =>
          obtain ⟨inner, octets, hi, spelled, rfl⟩ := hv value afterColon afterValue ht
          obtain ⟨after, ha, has⟩ := exists_skipBlank afterValue
          split at h
          next more hq =>
            obtain ⟨⟨others, last⟩, hr, hp⟩ := Option.map_eq_some_iff.mp h
            obtain ⟨rfl, rfl⟩ := Prod.mk.inj hp
            obtain ⟨octets, spelledMore, rfl⟩ := he others more last hr
            refine ⟨_, .nextEntry hb hin hm hi spelled ha spelledMore, ?_⟩
            rw [hs, hms, has, hq]
            simp only [List.append_assoc, List.cons_append]
          next more hq =>
            obtain ⟨rfl, rfl⟩ := Prod.mk.inj (Option.some.inj h)
            refine ⟨_, .lastEntry hb hin hm hi spelled ha, ?_⟩
            rw [hs, hms, has, hq]
            simp only [List.append_assoc, List.cons_append]
          · cases h
      · cases h
  · cases h

/-- What is read is spelled. -/
theorem isSpelled (fuel : Nat) (part : Part) : IsSpelled fuel part := by
  induction fuel generalizing part with
  | zero =>
    cases part with
    | value written => exact fun bytes rest h => by cases h
    | items items => exact fun bytes rest h => by cases h
    | entries entries => exact fun bytes rest h => by cases h
  | succ fuel ih =>
    cases part with
    | value written => exact isSpelled_value (fun _ => ih _) (fun _ => ih _) written
    | items items => exact isSpelled_items (fun _ => ih _) (fun _ => ih _) items
    | entries entries => exact isSpelled_entries (fun _ => ih _) (fun _ => ih _) entries

/-- A value is read from octets exactly when they spell it, with nothing but blanks around it. -/
theorem read_eq_some_iff {bytes : Bytes} {written : Written} :
    Written.read? bytes = some written ↔ written.SpelledBy bytes := by
  rw [Written.read?]
  constructor
  · intro h
    split at h
    next value rest ht =>
      split at h
      next hr =>
        obtain rfl := Option.some.inj h
        obtain ⟨before, inner, hb, spelled, rfl⟩ := isSpelled _ (.value value) bytes rest ht
        exact ⟨before, inner, rest, hb, spelled, skipBlank_eq_nil_iff.mp hr, rfl⟩
      · cases h
    · cases h
  · rintro ⟨before, inner, after, hb, spelled, ha, rfl⟩
    have hr := spelled.isRead (2 * (before ++ (inner ++ after)).length + 1) after
      (by simp only [List.length_append]; omega) (endsNumber_of_blank ha)
    rw [takeValue_blank hb, hr]
    dsimp only
    rw [if_pos (skipBlank_eq_nil_iff.mpr ha)]

end MediaGateway.Json
