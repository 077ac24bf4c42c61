import MediaGateway.Proofs.Url.Path
import MediaGateway.Url.Reader

/-!
# Paths put behind an address

A text that writes an address of the web and holds neither a query nor a fragment
can have a path put behind it. What comes out writes the same address with the
segments of that path behind its own.
-/

namespace MediaGateway.Url

/-! ## Lists of characters -/

/-- A stretch ends in front of a character that stops it, wherever that is put behind. -/
theorem takeWhile_append_stop {test : Char → Bool} {stop : Char} (h : test stop = false)
    (chars rest : List Char) :
    (chars ++ stop :: rest).takeWhile test = chars.takeWhile test := by
  rw [List.takeWhile_append]
  by_cases hl : (chars.takeWhile test).length = chars.length
  · rw [if_pos hl, List.takeWhile_cons_of_neg (ne_true_of_eq_false h), List.append_nil,
      List.IsPrefix.eq_of_length (List.takeWhile_prefix test) hl]
  · rw [if_neg hl]

/-- What follows a stretch keeps what is put behind it. -/
theorem dropWhile_append_stop {test : Char → Bool} {stop : Char} (h : test stop = false)
    (chars rest : List Char) :
    (chars ++ stop :: rest).dropWhile test = chars.dropWhile test ++ stop :: rest := by
  rw [List.dropWhile_append]
  by_cases he : (chars.dropWhile test).isEmpty = true
  · rw [if_pos he, List.dropWhile_cons_of_neg (ne_true_of_eq_false h), List.isEmpty_iff.mp he,
      List.nil_append]
  · rw [if_neg he]

/-- A stretch that nothing stops is all there is. -/
theorem takeWhile_of_all {test : Char → Bool} {chars : List Char}
    (h : ∀ char ∈ chars, test char = true) : chars.takeWhile test = chars := by
  have ht : (chars ++ []).takeWhile test = chars ++ [].takeWhile test :=
    List.takeWhile_append_of_pos h
  rwa [List.append_nil, List.takeWhile_nil, List.append_nil] at ht

/-- Nothing follows a stretch exactly when nothing stops it. -/
theorem dropWhile_eq_nil {test : Char → Bool} {chars : List Char} :
    chars.dropWhile test = [] ↔ ∀ char ∈ chars, test char = true := by
  have hs := @List.takeWhile_append_dropWhile _ test chars
  constructor
  · intro h
    rw [h, List.append_nil] at hs
    rw [← hs]
    exact List.all_eq_true.mp List.all_takeWhile
  · intro h
    rw [takeWhile_of_all h] at hs
    exact List.append_cancel_left (hs.trans (List.append_nil chars).symm)

/-- The end of a list is that of its last part. -/
theorem getLast_of_suffix {part chars : List Char} (h : part <:+ chars) (hn : part ≠ []) :
    chars.getLast? = part.getLast? := by
  obtain ⟨front, rfl⟩ := h
  rw [List.getLast?_append]
  cases hp : part.getLast? with
  | none => exact absurd (List.getLast?_eq_none_iff.mp hp) hn
  | some last => rfl

/-- The last of the parts between separators is empty when the list ends in a separator. -/
theorem splitOnP_last (test : Char → Bool) (chars : List Char) :
    ∃ front back, chars.splitOnP test = front ++ [back] ∧
      (back = [] ↔ chars.getLast?.all test = true) ∧ (front = [] → back = chars) := by
  induction chars with
  | nil => exact ⟨[], [], List.splitOnP_nil, by simp, fun _ => rfl⟩
  | cons char chars ih =>
    obtain ⟨front, back, he, hb, hf⟩ := ih
    have hl : chars ≠ [] → (char :: chars).getLast? = chars.getLast? :=
      getLast_of_suffix (List.suffix_cons char chars)
    rw [List.splitOnP_cons_eq_if_modifyHead, he]
    by_cases ht : test char = true
    · refine ⟨[] :: front, back, by rw [if_pos ht, List.cons_append], ?_,
        fun h => absurd h (List.cons_ne_nil _ _)⟩
      cases chars with
      | nil => simp only [hb, List.getLast?_singleton, Option.all_some, ht, List.getLast?_nil,
          Option.all_none]
      | cons next chars => rw [hb, hl (List.cons_ne_nil next chars)]
    · rw [if_neg ht]
      cases front with
      | nil =>
        refine ⟨[], char :: back, rfl, ?_, fun _ => by rw [hf rfl]⟩
        rw [hf rfl] at hb
        cases chars with
        | nil => simp only [List.getLast?_singleton, Option.all_some, ht, reduceCtorEq,
            Bool.false_eq_true]
        | cons next chars =>
          rw [hl (List.cons_ne_nil next chars), ← hb]
          simp only [reduceCtorEq]
      | cons first front =>
        refine ⟨(char :: first) :: front, back, rfl, ?_,
          fun h => absurd h (List.cons_ne_nil _ _)⟩
        have hn : chars ≠ [] := by
          rintro rfl
          have hs := congrArg List.length he
          simp only [List.splitOnP_nil, List.length_cons, List.length_nil, List.cons_append,
            List.length_append] at hs
          omega
        rw [hb, hl hn]

/-! ## Literal segments -/

/-- Whether a segment is written as it is meant. -/
def isLiteral (segment : String) : Bool :=
  segment.toList.all (fun char => !reservedInPath char && !isSlash true char) && !isDots segment

/-- A literal segment has no character that is reserved, none that separates, and is no dots. -/
theorem isLiteral_iff {segment : String} :
    isLiteral segment = true ↔ (∀ char ∈ segment.toList, reservedInPath char = false) ∧
      (∀ char ∈ segment.toList, isSlash true char = false) ∧ isDots segment = false := by
  simp only [isLiteral, Bool.and_eq_true, List.all_eq_true, Bool.not_eq_true']
  constructor
  · rintro ⟨hc, hd⟩
    exact ⟨fun char h => (hc char h).1, fun char h => (hc char h).2, hd⟩
  · rintro ⟨hr, hs, hd⟩
    exact ⟨fun char h => ⟨hr char h, hs char h⟩, hd⟩

/-- What is not reserved is left as it is. -/
theorem percentEncode_of_plain {reserved : Char → Bool} {chars : List Char}
    (h : ∀ char ∈ chars, reserved char = false) :
    percentEncode reserved chars = String.ofList chars := by
  have hf : chars.flatMap (percentChar reserved) = chars := by
    induction chars with
    | nil => rfl
    | cons char chars ih =>
      have hc := h char (List.mem_cons_self ..)
      rw [List.flatMap_cons, ih fun other ho => h other (List.mem_cons_of_mem _ ho)]
      simp only [percentChar, hc, Bool.false_eq_true, if_false, List.singleton_append]
  rw [percentEncode, hf]

/-- The characters of a path: those of its segments, each after a slash. -/
def pathChars (names : List String) : List Char := names.flatMap fun name => '/' :: name.toList

/-- The text of a path has its characters. -/
theorem pathText_toList (names : List String) : (pathText names).toList = pathChars names := by
  induction names with
  | nil => rfl
  | cons name names ih =>
    rw [pathText, List.map_cons, String.join_cons, String.toList_append, String.toList_append]
    rw [pathText] at ih
    rw [ih]
    rfl

/-- The parts of literal segments between slashes are the segments. -/
theorem splitOnP_literals {name : String} {names : List String} (hn : isLiteral name = true)
    (h : ∀ other ∈ names, isLiteral other = true) :
    ((name.toList ++ pathChars names).splitOnP (isSlash true)).map
      (percentEncode reservedInPath) = name :: names := by
  induction names generalizing name with
  | nil =>
    have hl := isLiteral_iff.mp hn
    rw [pathChars, List.flatMap_nil, List.append_nil, List.splitOnP_eq_singleton hl.2.1,
      List.map_singleton, percentEncode_of_plain hl.1, String.ofList_toList]
  | cons next names ih =>
    have hl := isLiteral_iff.mp hn
    have hs : isSlash true '/' = true := rfl
    rw [pathChars, List.flatMap_cons, List.cons_append, List.splitOnP_append_cons _ _ hs,
      List.splitOnP_eq_singleton hl.2.1, List.singleton_append, List.map_cons,
      percentEncode_of_plain hl.1, String.ofList_toList]
    exact congrArg _ (ih (h next (List.mem_cons_self ..))
      fun other ho => h other (List.mem_cons_of_mem _ ho))

/-! ## Segments behind segments -/

/-- Whether characters end in a slash. -/
def endsInSlash (chars : List Char) : Bool := chars.getLast?.any (isSlash true)

/-- The segments in front of a path that is put behind characters: those that the characters
write, without an empty one at the end that no slash stands for. -/
def trunk (chars : List Char) (own : List String) : List String :=
  if endsInSlash chars then own else withoutEnd own

/-- Literal segments that are put behind a path come in behind its own. -/
theorem readSegments_behind {path : List Char}
    (hp : ∀ char, path.head? = some char → isSlash true char = true) {names : List String}
    (hn : names ≠ []) (hl : ∀ name ∈ names, isLiteral name = true) :
    readSegments .web [] (dropSlash true (path ++ pathChars names)) =
      trunk path (readSegments .web [] (dropSlash true path)) ++ names := by
  obtain ⟨name, more, rfl⟩ := List.exists_cons_of_ne_nil hn
  have hd : ∀ other ∈ name :: more, isDots other = false :=
    fun other ho => (isLiteral_iff.mp (hl other ho)).2.2
  have hs := splitOnP_literals (hl name (List.mem_cons_self ..))
    fun other ho => hl other (List.mem_cons_of_mem _ ho)
  have hf : Kind.web.isFile = false := rfl
  have hk : Kind.web.isSpecial = true := rfl
  have hc : isSlash true '/' = true := rfl
  cases path with
  | nil =>
    simp only [pathChars, List.flatMap_cons, List.nil_append, List.cons_append, dropSlash, hc,
      if_true, readSegments, hf, hk]
    rw [← pathChars, hs, settleAll_of_not_dots hd]
    rfl
  | cons first path =>
    obtain ⟨front, back, he, hb, hw⟩ := splitOnP_last (isSlash true) path
    have h1 := hp first rfl
    simp only [List.cons_append, dropSlash, h1, if_true, readSegments, hf, hk]
    rw [pathChars, List.flatMap_cons, List.cons_append, List.splitOnP_append_cons _ _ hc,
      List.map_append, ← pathChars, hs, settleAll_append _ _ _ (List.cons_ne_nil name more),
      settleAll_of_not_dots hd, he, List.map_append, List.map_singleton,
      settleAll_append _ _ _ (List.cons_ne_nil _ _), List.foldl_append, List.foldl_cons,
      List.foldl_nil, settleAll]
    have hq : endsInSlash (first :: path) = true ↔ back = [] := by
      rw [hb, endsInSlash]
      cases path with
      | nil => simp only [List.getLast?_singleton, Option.any_some, h1, List.getLast?_nil,
          Option.all_none]
      | cons second path =>
        rw [getLast_of_suffix (List.suffix_cons first (second :: path)) (List.cons_ne_nil _ _)]
        simp only [List.getLast?_cons, Option.any_some, Option.all_some]
    by_cases hz : back = []
    · rw [trunk, if_pos (hq.mpr hz), percentEncode_eq_empty.mpr hz, enter_of_not_dots rfl,
        settle_of_not_dots rfl]
    · rw [trunk, if_neg fun h => hz (hq.mp h),
        enter_eq_withoutEnd fun h => hz (percentEncode_eq_empty.mp h)]

/-! ## Host and port -/

/-- Host and port of an address of the web, from the characters between its two slashes and its
path. -/
def webAuthority (scheme : String) (named : List Char) : Except Problem Authority := do
  let place := (splitUser named).2
  let length := hostLength false place
  let written := place.take length
  if written = [] then .error .emptyHost
  else
    let host ← readHost written
    match place.drop length with
    | [] => .ok ⟨host, none⟩
    | _ :: digits =>
      let (port, _) ← readPort scheme digits
      .ok ⟨host, port⟩

/-- What follows the name of a user was there before. -/
theorem splitUser_subset (chars : List Char) : (splitUser chars).2 ⊆ chars := by
  intro char h
  have hs : chars.reverse.takeWhile (fun char => decide (char ≠ '@')) ⊆ chars.reverse :=
    (List.takeWhile_prefix _).subset
  rw [splitUser] at h
  split at h
  · exact h
  · exact List.mem_reverse.mp (hs (List.mem_reverse.mp h))

/-- Nothing is left of a port that no backslash follows. -/
theorem readPort_left {scheme : String} {chars left : List Char} {port : Option Nat}
    (hb : '\\' ∉ chars) (h : readPort scheme chars = .ok (port, left)) : left = [] := by
  have hs : chars.dropWhile Char.isDigit ⊆ chars := (List.dropWhile_suffix _).subset
  rw [readPort] at h
  split at h
  · cases h
  · split at h
    next hl =>
      obtain ⟨_, rfl⟩ := Prod.mk.inj (Except.ok.inj h)
      cases hd : chars.dropWhile Char.isDigit with
      | nil => rfl
      | cons first rest =>
        rw [hd, List.head?_cons, Option.all_some, decide_eq_true_eq] at hl
        rw [hd] at hs
        exact absurd (hl ▸ hs (List.mem_cons_self ..)) hb
    · cases h

/-- An address of the web is read in two parts. -/
theorem readAuthority_eq {scheme : String} (hw : Kind.ofScheme scheme = .web)
    (chars : List Char) :
    readAuthority scheme chars = (do
      let authority ← webAuthority scheme (chars.takeWhile fun char => !endsAuthority true char)
      .ok (readPlace scheme (some authority)
        (chars.dropWhile fun char => !endsAuthority true char))) := by
  have hk : Kind.web.isSpecial = true := rfl
  simp only [readAuthority, hw, hk, webAuthority]
  generalize hn : (chars.takeWhile fun char => !endsAuthority true char) = named
  generalize chars.dropWhile (fun char => !endsAuthority true char) = rest
  have hb : '\\' ∉ (splitUser named).2 := by
    intro h
    have hm := splitUser_subset named h
    rw [← hn] at hm
    have ht := List.all_eq_true.mp List.all_takeWhile _ hm
    revert ht
    decide
  by_cases hz : (splitUser named).2.take (hostLength false (splitUser named).2) = []
  · rw [if_pos ⟨hz, .inl trivial⟩, if_pos hz]
    rfl
  · rw [if_neg fun h => hz h.1, if_neg fun h => hz h.1, if_neg hz]
    rw [if_pos trivial]
    cases hh : readHost ((splitUser named).2.take (hostLength false (splitUser named).2)) with
    | error problem => rfl
    | ok host =>
      cases hd : (splitUser named).2.drop (hostLength false (splitUser named).2) with
      | nil => simp only [bind, Except.bind]
      | cons mark digits =>
        cases hr : readPort scheme digits with
        | error problem => simp only [hr, bind, Except.bind]
        | ok read =>
          have hs : digits ⊆ (splitUser named).2 := by
            intro char hc
            exact List.mem_of_mem_drop (hd ▸ List.mem_cons_of_mem mark hc)
          have hl : read.2 = [] := readPort_left (fun h => hb (hs h)) hr
          simp only [hr, hl, bind, Except.bind, List.nil_append]

/-- Characters of a path that no query or fragment follows are all there is of the place. -/
theorem readPlace_web {scheme : String} (hw : Kind.ofScheme scheme = .web)
    (authority : Authority) {chars : List Char} (h : ∀ char ∈ chars, inPath char = true) :
    readPlace scheme (some authority) chars = ⟨scheme, some authority,
      .segments (readSegments .web [] (dropSlash true chars)), none, none⟩ := by
  have hd : chars.dropWhile inPath = [] := dropWhile_eq_nil.mpr h
  have ht : chars.takeWhile inPath = chars := takeWhile_of_all h
  have hk : Kind.web.isSpecial = true := rfl
  have ho : ¬(chars = [] ∧ Kind.web = Kind.other) := by
    rintro ⟨_, hc⟩
    cases hc
  simp only [readPlace, hw, hd, ht, hk, if_neg ho, readTail, readFragment]

/-- A place without a query and a fragment is a path to its end. -/
theorem inPath_of_readPlace {scheme : String} {authority : Option Authority} {chars : List Char}
    (hq : (readPlace scheme authority chars).query = none)
    (hf : (readPlace scheme authority chars).fragment = none) :
    ∀ char ∈ chars, inPath char = true := by
  rw [← dropWhile_eq_nil]
  cases hd : chars.dropWhile inPath with
  | nil => rfl
  | cons first rest =>
    have hi : inPath first = false := by
      have hn := List.head?_dropWhile_not inPath chars
      rw [hd, List.head?_cons] at hn
      exact hn
    simp only [readPlace, hd] at hq hf
    simp only [inPath, Bool.and_eq_false_iff, decide_eq_false_iff_not, ne_eq,
      Decidable.not_not] at hi
    rcases hi with rfl | rfl
    · simp only [readTail, reduceCtorEq] at hq
    · simp only [readTail, readFragment] at hf
      cases hf

/-- The characters of literal segments belong to a path. -/
theorem inPath_pathChars {names : List String} (hl : ∀ name ∈ names, isLiteral name = true) :
    ∀ char ∈ pathChars names, inPath char = true := by
  intro char h
  obtain ⟨name, hn, hc⟩ := List.mem_flatMap.mp h
  rcases List.mem_cons.mp hc with rfl | hc
  · decide
  · have hr := (isLiteral_iff.mp (hl name hn)).1 char hc
    simp only [reservedInPath, Bool.or_eq_false_iff, decide_eq_false_iff_not] at hr
    simp only [inPath, ne_eq, hr.1.1.1.2, hr.1.1.2, not_false_eq_true, decide_true, Bool.and_self]

/-- A path of segments begins with a slash. -/
theorem pathChars_cons {names : List String} (hn : names ≠ []) :
    ∃ rest, pathChars names = '/' :: rest := by
  cases names with
  | nil => exact absurd rfl hn
  | cons name names => exact ⟨name.toList ++ pathChars names, rfl⟩

/-- What ends host and port and belongs to a path is a slash. -/
theorem isSlash_of_endsAuthority {char : Char} (he : endsAuthority true char = true)
    (hi : inPath char = true) : isSlash true char = true := by
  simp only [inPath, Bool.and_eq_true, decide_eq_true_eq] at hi
  simp only [endsAuthority, Bool.or_eq_true, decide_eq_true_eq] at he
  exact he.resolve_right hi.2 |>.resolve_right hi.1

/-- Characters end in a slash when what follows host and port does. -/
theorem endsInSlash_rest (chars : List Char) :
    endsInSlash (chars.dropWhile fun char => !endsAuthority true char) = endsInSlash chars := by
  have hs := List.dropWhile_suffix (l := chars) fun char => !endsAuthority true char
  cases hd : chars.dropWhile fun char => !endsAuthority true char with
  | nil =>
    cases hl : chars.getLast? with
    | none => rw [endsInSlash, endsInSlash, hl, List.getLast?_nil]
    | some last =>
      have ha := dropWhile_eq_nil.mp hd last (List.mem_of_getLast? hl)
      simp only [endsAuthority, Bool.not_eq_true', Bool.or_eq_false_iff] at ha
      simp only [endsInSlash, hl, List.getLast?_nil, Option.any_none, Option.any_some, ha.1.1]
  | cons first rest =>
    rw [hd] at hs
    rw [endsInSlash, endsInSlash, getLast_of_suffix hs (List.cons_ne_nil first rest)]

/-- Literal segments behind host, port and path come in behind those of the path. -/
theorem readAuthority_behind {scheme : String} (hw : Kind.ofScheme scheme = .web)
    {chars : List Char} {base : Url} (h : readAuthority scheme chars = .ok base)
    (hq : base.query = none) (hf : base.fragment = none) {names : List String}
    (hn : names ≠ []) (hl : ∀ name ∈ names, isLiteral name = true) :
    ∃ own, base.scheme = scheme ∧ base.path = .segments own ∧
      readAuthority scheme (chars ++ pathChars names) =
        .ok { base with path := .segments (trunk chars own ++ names) } := by
  obtain ⟨more, hm⟩ := pathChars_cons hn
  have hs : (!endsAuthority true '/') = false := rfl
  have ht : (chars ++ pathChars names).takeWhile (fun char => !endsAuthority true char) =
      chars.takeWhile fun char => !endsAuthority true char := by
    rw [hm]
    exact takeWhile_append_stop hs chars more
  have hd : (chars ++ pathChars names).dropWhile (fun char => !endsAuthority true char) =
      chars.dropWhile (fun char => !endsAuthority true char) ++ pathChars names := by
    rw [hm]
    exact dropWhile_append_stop hs chars more
  rw [readAuthority_eq hw] at h
  rw [readAuthority_eq hw, ht, hd]
  have hr := endsInSlash_rest chars
  have he := List.head?_dropWhile_not (fun char => !endsAuthority true char) chars
  generalize chars.dropWhile (fun char => !endsAuthority true char) = rest at *
  cases ha : webAuthority scheme (chars.takeWhile fun char => !endsAuthority true char) with
  | error problem =>
    rw [ha] at h
    cases h
  | ok authority =>
    rw [ha] at h
    obtain rfl := Except.ok.inj h
    have hi := inPath_of_readPlace hq hf
    have hp : ∀ char ∈ rest ++ pathChars names, inPath char = true := by
      intro char hc
      exact (List.mem_append.mp hc).elim (hi char) (inPath_pathChars hl char)
    have hf : ∀ char, rest.head? = some char → isSlash true char = true := by
      intro char hc
      rw [hc] at he
      have hx : endsAuthority true char = true := by simpa using he
      exact isSlash_of_endsAuthority hx (hi char (List.mem_of_mem_head? hc))
    refine ⟨readSegments .web [] (dropSlash true rest), ?_⟩
    rw [readPlace_web hw authority hi]
    refine ⟨rfl, rfl, ?_⟩
    simp only [bind, Except.bind]
    rw [readPlace_web hw authority hp, readSegments_behind hf hn hl, trunk, trunk, hr]

/-! ## Whole texts -/

/-- Characters whose last one does not count for blank are trimmed in front only. -/
theorem trimWhere_of_last {test : Char → Bool} {chars : List Char}
    (h : ∀ char, chars.getLast? = some char → test char = false) :
    Text.trimWhere test chars = chars.dropWhile test := by
  rw [Text.trimWhere]
  cases hr : (chars.dropWhile test).reverse with
  | nil => rw [List.reverse_eq_nil_iff.mp hr, List.dropWhile_nil, List.reverse_nil]
  | cons last front =>
    have he : chars.dropWhile test = front.reverse ++ [last] := by
      rw [← List.reverse_cons, ← hr, List.reverse_reverse]
    have hl : chars.getLast? = some last := by
      rw [getLast_of_suffix (List.dropWhile_suffix test) (by rw [he]; exact List.concat_ne_nil _ _),
        he, List.getLast?_concat]
    rw [List.dropWhile_cons_of_neg (ne_true_of_eq_false (h last hl)), List.reverse_cons, he]

/-- The characters of literal segments are no blanks and no control characters. -/
theorem pathChars_printable {names : List String} (hl : ∀ name ∈ names, isLiteral name = true) :
    ∀ char ∈ pathChars names, 0x20 < char.toNat := by
  intro char h
  obtain ⟨name, hn, hc⟩ := List.mem_flatMap.mp h
  rcases List.mem_cons.mp hc with rfl | hc
  · decide
  · have hr := (isLiteral_iff.mp (hl name hn)).1 char hc
    simp only [reservedInPath, reservedInFragment, isUnprintable, Bool.or_eq_false_iff,
      decide_eq_false_iff_not] at hr
    obtain ⟨⟨⟨⟨⟨⟨⟨⟨⟨hu, hb⟩, _⟩, _⟩, _⟩, _⟩, _⟩, _⟩, _⟩, _⟩ := hr
    have hne : char.toNat ≠ 0x20 := by
      intro he
      exact hb ((Char.ofNat_toNat char).symm.trans (congrArg Char.ofNat he))
    omega

/-- Tabs and ends of lines are control characters. -/
theorem isBreak_of_printable {char : Char} (h : 0x20 < char.toNat) : isBreak char = false := by
  have hb : ∀ control : Char, control.toNat ≤ 0x20 → char ≠ control := by
    rintro control hc rfl
    omega
  simp only [isBreak, hb '\t' (by decide), hb '\n' (by decide), hb '\r' (by decide), decide_false,
    Bool.or_self]

/-- All that counts in a path of literal segments behind a text is the path. -/
theorem countingChars_behind {text : String} (hn : text.toList ≠ [])
    (he : ∀ char, text.toList.getLast? = some char → 0x20 < char.toNat) {names : List String}
    (hz : names ≠ []) (hl : ∀ name ∈ names, isLiteral name = true) :
    countingChars (text ++ pathText names) = countingChars text ++ pathChars names ∧
      endsInSlash (countingChars text) = endsInSlash text.toList := by
  have hp := pathChars_printable hl
  obtain ⟨more, hm⟩ := pathChars_cons hz
  have ht : ∀ char : Char, 0x20 < char.toNat → decide (char.toNat ≤ 0x20) = false := by
    intro char h
    rw [decide_eq_false_iff_not]
    omega
  have ho : Text.trimWhere (fun char => decide (char.toNat ≤ 0x20)) text.toList =
      text.toList.dropWhile fun char => decide (char.toNat ≤ 0x20) :=
    trimWhere_of_last fun char h => ht char (he char h)
  constructor
  · have hb : (text.toList ++ pathChars names).getLast? = (pathChars names).getLast? :=
      getLast_of_suffix (List.suffix_append ..) (by rw [hm]; exact List.cons_ne_nil _ _)
    have hw : Text.trimWhere (fun char => decide (char.toNat ≤ 0x20))
        (text.toList ++ pathChars names) =
        (text.toList ++ pathChars names).dropWhile fun char => decide (char.toNat ≤ 0x20) :=
      trimWhere_of_last fun char h => ht char (hp char (List.mem_of_getLast? (hb ▸ h)))
    have hf : (pathChars names).filter (fun char => !isBreak char) = pathChars names :=
      List.filter_eq_self.mpr fun char h => by rw [isBreak_of_printable (hp char h), Bool.not_false]
    rw [countingChars, countingChars, String.toList_append, pathText_toList, hw, ho]
    rw [hm, dropWhile_append_stop (ht '/' (by decide)), ← hm, List.filter_append, hf]
  · obtain ⟨front, last, hc⟩ := (List.eq_nil_or_concat text.toList).resolve_left hn
    rw [List.concat_eq_append] at hc
    have hb := he last (by rw [hc, List.getLast?_concat])
    have hs : (front ++ [last]).dropWhile (fun char => decide (char.toNat ≤ 0x20)) =
        front.dropWhile (fun char => decide (char.toNat ≤ 0x20)) ++ [last] :=
      dropWhile_append_stop (ht last hb) front []
    have hk : [last].filter (fun char => !isBreak char) = [last] :=
      List.filter_eq_self.mpr fun char h => by
        rw [List.mem_singleton.mp h, isBreak_of_printable hb, Bool.not_false]
    rw [countingChars, ho, hc, hs, List.filter_append, hk, endsInSlash, endsInSlash,
      List.getLast?_concat, List.getLast?_concat]

/-- The scheme in front of characters is that of the characters with a path behind them. -/
theorem takeScheme_behind {chars rest : List Char} {scheme : String}
    (h : takeScheme chars = some (scheme, rest)) (more : List Char) :
    takeScheme (chars ++ '/' :: more) = some (scheme, rest ++ '/' :: more) ∧ rest <:+ chars := by
  have hs : isSchemeChar '/' = false := rfl
  rw [takeScheme] at h
  rw [takeScheme, takeWhile_append_stop hs, dropWhile_append_stop hs]
  split at h
  next ha =>
    have hh : (chars ++ '/' :: more).head?.any Char.isAlpha = true := by
      cases chars with
      | nil => cases ha
      | cons first chars => exact ha
    rw [if_pos hh]
    split at h
    next found hd =>
      obtain ⟨rfl, rfl⟩ := Prod.mk.inj (Option.some.inj h)
      rw [hd]
      refine ⟨rfl, (List.suffix_cons ':' found).trans ?_⟩
      rw [← hd]
      exact List.dropWhile_suffix isSchemeChar
    · cases h
  · cases h

/-- Host, port and path do not change the scheme. -/
theorem readAuthority_scheme {scheme : String} {chars : List Char} {url : Url}
    (h : readAuthority scheme chars = .ok url) : url.scheme = scheme := by
  simp only [readAuthority, bind, Except.bind] at h
  repeat' split at h
  all_goals cases h
  all_goals rfl

/-- The address of a file has the scheme of files. -/
theorem readFile_scheme {chars : List Char} {url : Url} (h : readFile chars = .ok url) :
    url.scheme = "file" := by
  simp only [readFile, bind, Except.bind] at h
  repeat' split at h
  all_goals cases h
  all_goals rfl

/-- An address has the kind of the scheme that it is written with. -/
theorem readAfterScheme_kind {scheme : String} {chars : List Char} {url : Url}
    (h : readAfterScheme scheme chars = .ok url) : url.kind = Kind.ofScheme scheme := by
  unfold readAfterScheme at h
  split at h
  next hk => rw [kind, readAuthority_scheme h]
  next hk =>
    rw [kind, readFile_scheme h, hk]
    rfl
  · rw [kind, readAuthority_scheme h]
  · obtain rfl := Except.ok.inj h
    rfl
  · obtain rfl := Except.ok.inj h
    rfl

/-- A text that a path can be put behind: it writes an address of the web that has neither a
query nor a fragment, and no blank or control character stands at its end. -/
structure TakesPath (text : String) (base : Url) : Prop where
  /-- The text writes the address. -/
  reads : read text = .ok base
  /-- It is one of the web. -/
  web : base.scheme = "http" ∨ base.scheme = "https"
  /-- It has no query. -/
  query : base.query = none
  /-- It has no fragment. -/
  fragment : base.fragment = none
  /-- Its last character is printed. -/
  ends : ∀ char, text.toList.getLast? = some char → 0x20 < char.toNat

/-- What follows the scheme of an address of the web is host, port and path. -/
theorem readAfterScheme_web {scheme : String} (hw : Kind.ofScheme scheme = .web)
    (chars : List Char) :
    readAfterScheme scheme chars = readAuthority scheme (chars.dropWhile (isSlash true)) := by
  simp only [readAfterScheme, hw]

/-- Literal segments behind a text that takes a path come in behind those of its address. -/
theorem read_behind {text : String} {base : Url} (h : TakesPath text base) {names : List String}
    (hn : names ≠ []) (hl : ∀ name ∈ names, isLiteral name = true) :
    ∃ own, base.path = .segments own ∧ read (text ++ pathText names) =
      .ok { base with path := .segments (trunk text.toList own ++ names) } := by
  have hr := h.reads
  have ht : text.toList ≠ [] := by
    intro he
    rw [String.toList_eq_nil_iff.mp he] at hr
    cases hr
  obtain ⟨hc, hs⟩ := countingChars_behind ht h.ends hn hl
  obtain ⟨more, hm⟩ := pathChars_cons hn
  rw [read] at hr
  split at hr
  next scheme rest hx =>
    obtain ⟨hy, hz⟩ := takeScheme_behind hx more
    have hk : Kind.ofScheme scheme = .web := by
      rw [← readAfterScheme_kind hr, kind]
      rcases h.web with hw | hw <;> rw [hw] <;> rfl
    rw [readAfterScheme_web hk] at hr
    have hf : rest.dropWhile (isSlash true) ≠ [] := by
      intro he
      rw [he, readAuthority_eq hk] at hr
      cases hr
    have ha : (rest ++ '/' :: more).dropWhile (isSlash true) =
        rest.dropWhile (isSlash true) ++ pathChars names := by
      rw [List.dropWhile_append, if_neg fun he => hf (List.isEmpty_iff.mp he), hm]
    have he : endsInSlash (rest.dropWhile (isSlash true)) = endsInSlash text.toList := by
      rw [← hs, endsInSlash, endsInSlash,
        getLast_of_suffix ((List.dropWhile_suffix _).trans hz) hf]
    obtain ⟨own, hb, hp, ho⟩ := readAuthority_behind hk hr h.query h.fragment hn hl
    refine ⟨own, hp, ?_⟩
    simp only [read, hc, hm, hy, readAfterScheme_web hk]
    rw [ha, ho, trunk, trunk, he]
  · cases hr

/-- An address of the web takes one more segment behind its own. -/
theorem push_web {url : Url} (hk : url.kind = .web) {names : List String}
    (hp : url.path = .segments names) (hn : names ≠ [""]) {segment : String}
    (hd : segment ≠ "." ∧ segment ≠ "..") :
    push? url segment =
      some { url with path := .segments (settle false names (wholeSegment segment)) } := by
  simp only [push?, hp, hk, appendSegment_eq hn hd]

end MediaGateway.Url
