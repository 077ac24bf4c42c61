import MediaGateway.Proofs.Net.Groups

/-!
# Reading back addresses

An address of the newer kind is shown in one of three forms: all of its groups, the groups
around some zero groups that are left out, or an older address that it stands for. Each form is
read back as the address, and so is every socket address from its text. Without brackets an
address of the newer kind and a port write no socket address.
-/

namespace MediaGateway.Net

/-! ## Runs of zero groups -/

/-- Groups hold a run of zeros where it is said to start, unless it has no length. -/
def HoldsZeros (groups : List UInt16) (run : Nat × Nat) : Prop :=
  0 < run.2 → ∃ front back, front.length = run.1 ∧
    groups = front ++ (List.replicate run.2 0 ++ back)

/-- Groups end in a run of zeros. -/
def EndsInZeros (groups : List UInt16) (run : Nat × Nat) : Prop :=
  0 < run.2 → ∃ front, front.length = run.1 ∧ groups = front ++ List.replicate run.2 0

/-- A run at the end is held. -/
theorem EndsInZeros.holds {groups : List UInt16} {run : Nat × Nat} (h : EndsInZeros groups run) :
    HoldsZeros groups run := by
  intro long
  obtain ⟨front, start, same⟩ := h long
  exact ⟨front, [], start, by rw [List.append_nil, same]⟩

/-- More groups behind do not change what is held. -/
theorem HoldsZeros.append {groups : List UInt16} {run : Nat × Nat} (h : HoldsZeros groups run)
    (more : List UInt16) : HoldsZeros (groups ++ more) run := by
  intro long
  obtain ⟨front, back, start, same⟩ := h long
  exact ⟨front, back ++ more, start, by rw [same, List.append_assoc, List.append_assoc]⟩

/-- One more zero makes the run at the end longer, or begins one. -/
theorem EndsInZeros.longer {groups : List UInt16} {run : Nat × Nat} (h : EndsInZeros groups run) :
    EndsInZeros (groups ++ [0])
      (if run.2 = 0 then groups.length else run.1, run.2 + 1) := by
  intro _
  by_cases hz : run.2 = 0
  · refine ⟨groups, (if_pos hz).symm, ?_⟩
    rw [hz]
    rfl
  · obtain ⟨front, start, same⟩ := h (Nat.pos_of_ne_zero hz)
    refine ⟨front, start.trans (if_neg hz).symm, ?_⟩
    rw [same, List.append_assoc, List.replicate_succ']

/-- The longest run is a run of zeros. The run that reaches up to a place and the longest before
it are, and every group that follows keeps that. -/
theorem holdsZeros_longestRun {seen : List UInt16} (rest : List UInt16) {run best : Nat × Nat}
    (last : EndsInZeros seen run) (before : HoldsZeros seen best) :
    HoldsZeros (seen ++ rest) (longestRun seen.length run best rest) := by
  induction rest generalizing seen run best with
  | nil =>
    rw [List.append_nil, longestRun]
    by_cases hl : best.2 < run.2
    · rw [if_pos hl]
      exact last.holds
    · rw [if_neg hl]
      exact before
  | cons group rest ih =>
    have hs : seen ++ group :: rest = (seen ++ [group]) ++ rest := by
      rw [List.append_assoc, List.singleton_append]
    have hn : seen.length + 1 = (seen ++ [group]).length := by
      rw [List.length_append, List.length_singleton]
    rw [hs, longestRun, hn]
    by_cases hz : group = 0
    · rw [if_pos hz]
      exact ih (hz ▸ last.longer) (before.append _)
    · rw [if_neg hz]
      refine ih (fun long => absurd long (Nat.lt_irrefl 0)) ?_
      by_cases hl : best.2 < run.2
      · rw [if_pos hl]
        exact last.holds.append _
      · rw [if_neg hl]
        exact before.append _

/-- The groups around the longest run, if there is one. -/
theorem around_longestRun {groups : List UInt16} {run : Nat × Nat}
    (h : longestRun 0 (0, 0) (0, 0) groups = run) (long : 0 < run.2) :
    groups = groups.take run.1 ++ (List.replicate run.2 0 ++ groups.drop (run.1 + run.2)) := by
  have none_yet : EndsInZeros [] (0, 0) := fun long => absurd long (Nat.lt_irrefl 0)
  have held := holdsZeros_longestRun groups none_yet none_yet.holds
  rw [List.nil_append, List.length_nil, h] at held
  obtain ⟨front, back, start, same⟩ := held long
  have ht : groups.take run.1 = front := by rw [same, ← start, List.take_left]
  have hl : run.1 + run.2 = (front ++ List.replicate run.2 (0 : UInt16)).length := by
    rw [List.length_append, List.length_replicate, start]
  have hd : groups.drop (run.1 + run.2) = back := by
    rw [hl, same, ← List.append_assoc, List.drop_left]
  rw [ht, hd]
  exact same

/-! ## Addresses of the newer kind -/

/-- A group is its upper half and its lower half. -/
theorem halves_eq (group : UInt16) :
    (group >>> 8).toUInt8.toUInt16 * 256 + group.toUInt8.toUInt16 = group := by
  have hg := group.toNat_lt
  apply UInt16.toNat_inj.mp
  simp only [UInt16.toNat_add, UInt16.toNat_mul, UInt8.toNat_toUInt16, UInt16.toNat_toUInt8,
    UInt16.toNat_shiftRight, UInt16.reduceToNat, Nat.shiftRight_eq_div_pow, Nat.reduceMod,
    Nat.reducePow]
  omega

/-- An address that stands for an older one has its groups at the end. -/
theorem Ipv6.groups_of_mapped {address : Ipv6} {older : Ipv4} (h : address.mapped? = some older) :
    address.groups = [0, 0, 0, 0, 0, 0xFFFF] ++ older.groups := by
  unfold Ipv6.mapped? at h
  split at h
  · next high low same =>
    obtain rfl := Option.some.inj h
    rw [same, Ipv4.groups, halves_eq, halves_eq]
    rfl
  · cases h

/-- What an address of the newer kind is shown as. -/
inductive Ipv6.Shown (address : Ipv6) : List Char → Prop where
  /-- The older address that it stands for. -/
  | mapped (older : Ipv4) (same : address.groups = [0, 0, 0, 0, 0, 0xFFFF] ++ older.groups) :
    Shown address (':' :: ':' :: (groupChars 0xFFFF ++ ':' :: older.text.toList))
  /-- All of its groups. -/
  | full : Shown address (groupsText address.groups).toList
  /-- The groups around zeros that are left out. -/
  | shortened (front back : List UInt16) (zeros : Nat) (present : 0 < zeros)
    (same : address.groups = front ++ (List.replicate zeros 0 ++ back)) :
    Shown address ((groupsText front).toList ++ ':' :: ':' :: (groupsText back).toList)

/-- The text of an address shows it. -/
theorem Ipv6.shown_text (address : Ipv6) : address.Shown address.text.toList := by
  rw [Ipv6.text]
  cases hm : address.mapped? with
  | some older =>
    have hc : ("::ffff:").toList = ':' :: ':' :: (groupChars 0xFFFF ++ [':']) := by decide
    dsimp only
    rw [String.toList_append, hc, List.cons_append, List.cons_append, List.append_assoc]
    exact .mapped older (groups_of_mapped hm)
  | none =>
    dsimp only
    generalize hr : longestRun 0 (0, 0) (0, 0) address.groups = run
    by_cases short : run.2 < 2
    · rw [if_pos short]
      exact .full
    · have hc : ("::").toList = [':', ':'] := rfl
      have long : 0 < run.2 := by omega
      rw [if_neg short, String.toList_append, String.toList_append, hc, List.append_assoc]
      exact .shortened _ _ run.2 long (around_longestRun hr long)

/-- There are eight groups with those that are left out. -/
theorem Ipv6.length_around {address : Ipv6} {front back : List UInt16} {zeros : Nat}
    (same : address.groups = front ++ (List.replicate zeros 0 ++ back)) :
    front.length + (zeros + back.length) = 8 := by
  rw [← address.eight, same, List.length_append, List.length_append, List.length_replicate]

/-- Groups of which some are left out are those in front of the colons, zeros, and those behind. -/
theorem takeIpv6_around {address : Ipv6} {front back : List UInt16} {zeros : Nat}
    {endsOlder : Bool} {chars rest : List Char} (present : 0 < zeros)
    (same : address.groups = front ++ (List.replicate zeros 0 ++ back))
    (behind : takeGroups (8 - (front.length + 1)) false chars = (⟨back, endsOlder⟩, rest)) :
    takeIpv6 ((groupsText front).toList ++ ':' :: ':' :: chars) = some (address, rest) := by
  have hn := Ipv6.length_around same
  have hf : takeGroups 8 false ((groupsText front).toList ++ ':' :: ':' :: chars) =
      (⟨front, false⟩, ':' :: ':' :: chars) :=
    takeGroups_groupsText (endsRun_colons chars) (by omega)
  have hl : ¬front.length = 8 := by omega
  have hz : 8 - front.length - back.length = zeros := by omega
  have ha : Ipv6.ofGroups? (front ++ List.replicate zeros 0 ++ back) = some address := by
    rw [List.append_assoc, ← same]
    exact dif_pos address.eight
  simp only [takeIpv6, hf, if_neg hl, Bool.false_eq_true, if_false, takeChar_cons, behind, hz, ha,
    Option.bind_eq_bind, Option.bind_some, Option.pure_def]

/-- An address is read back from whatever shows it. -/
theorem Ipv6.Shown.takeIpv6_eq {address : Ipv6} {chars rest : List Char}
    (shown : address.Shown chars) (h : EndsRun rest) :
    takeIpv6 (chars ++ rest) = some (address, rest) := by
  cases shown with
  | full =>
    have hg := takeGroups_groupsText h (Nat.le_of_eq address.eight)
    have ha : Ipv6.ofGroups? address.groups = some address := dif_pos address.eight
    simp only [takeIpv6, hg, address.eight, if_true, ha, Option.bind_eq_bind, Option.bind_some,
      Option.pure_def]
  | shortened front back zeros present same =>
    have hn := length_around same
    rw [List.append_assoc, List.cons_append, List.cons_append]
    exact takeIpv6_around present same (takeGroups_groupsText h (by omega))
  | mapped older same =>
    -- The older address is the end of a run that begins with its mark.
    have ho : takeGroups 6 true (lead true ++ (older.text.toList ++ rest)) =
        (⟨older.groups, true⟩, rest) := takeGroups_older h.halts 4 true older
    have hb := takeGroups_group (halts_colon (older.text.toList ++ rest)) 6 false 0xFFFF
    rw [← lead_true, ho, lead_true, lead_false] at hb
    have hs : address.groups = [] ++ (List.replicate 5 0 ++ 0xFFFF :: older.groups) := same
    have hr := takeIpv6_around (by decide) hs hb
    rw [List.cons_append, List.cons_append, List.append_assoc]
    exact hr

/-- A colon behind groups has a colon behind the digits of the first of them, or is in front. -/
theorem exists_colon_groups (groups : List UInt16) (rest : List Char) :
    ∃ digits more, (groupsText groups).toList ++ ':' :: rest = digits ++ ':' :: more ∧
      ∀ char ∈ digits, isHex char = true := by
  cases groups with
  | nil => exact ⟨[], rest, rfl, fun _ member => absurd member List.not_mem_nil⟩
  | cons first groups =>
    rw [toList_groupsText_cons, List.append_assoc]
    cases groups with
    | nil => exact ⟨groupChars first, rest, rfl, isHex_of_mem⟩
    | cons second groups =>
      rw [led_cons, List.cons_append]
      exact ⟨groupChars first, _, rfl, isHex_of_mem⟩

/-- An address is shown with digits, if any, and a colon in front. -/
theorem Ipv6.Shown.exists_colon {address : Ipv6} {chars : List Char}
    (shown : address.Shown chars) :
    ∃ digits more, chars = digits ++ ':' :: more ∧ ∀ char ∈ digits, isHex char = true := by
  cases shown with
  | mapped older same =>
    exact ⟨[], _, rfl, fun _ member => absurd member List.not_mem_nil⟩
  | full =>
    obtain ⟨first, groups, hg⟩ := List.exists_cons_of_length_eq_add_one address.eight
    have eight : (first :: groups).length = 8 := hg ▸ address.eight
    have hn : groups.length = 7 := Nat.succ.inj eight
    obtain ⟨second, groups, rfl⟩ := List.exists_cons_of_length_eq_add_one hn
    rw [hg, toList_groupsText_cons, led_cons]
    exact ⟨groupChars first, _, rfl, isHex_of_mem⟩
  | shortened front back zeros present same => exact exists_colon_groups front _

/-! ## Socket addresses -/

/-- A port is read back from its decimal form. -/
theorem endPort_toDigits (port : UInt16) :
    endPort (Nat.toDigits 10 port.toNat) = some port := by
  have hn : takeNumber 65536 (Nat.toDigits 10 port.toNat ++ []) = some (port.toNat, []) :=
    takeNumber_toDigits port.toNat_lt (startsOutside_nil Char.isDigit)
  rw [List.append_nil] at hn
  simp only [endPort, hn, Option.bind_eq_bind, Option.bind_some, if_true, UInt16.ofNat_toNat]

/-- The scope of an address as it stands behind it, unless it is zero. -/
def scopeChars (scope : UInt32) : List Char :=
  if scope = 0 then [] else '%' :: Nat.toDigits 10 scope.toNat

/-- A scope is read back. -/
theorem takeScope_scopeChars (scope : UInt32) (rest : List Char) :
    takeScope (scopeChars scope ++ ']' :: rest) = some (scope, ']' :: rest) := by
  rw [scopeChars]
  by_cases hs : scope = 0
  · rw [if_pos hs, hs]
    rfl
  · have hn : takeNumber (Nat.pow 2 32) (Nat.toDigits 10 scope.toNat ++ ']' :: rest) =
        some (scope.toNat, ']' :: rest) :=
      takeNumber_toDigits scope.toNat_lt (startsOutside_cons (by decide) rest)
    rw [if_neg hs, List.cons_append, takeScope, hn]
    simp only [Option.map_some, UInt32.ofNat_toNat]

/-- A scope or a bracket ends a run of groups. -/
theorem endsRun_scopeChars (scope : UInt32) (rest : List Char) :
    EndsRun (scopeChars scope ++ ']' :: rest) := by
  rw [scopeChars]
  by_cases hs : scope = 0
  · rw [if_pos hs]
    exact endsRun_cons (by decide) (by decide) _
  · rw [if_neg hs]
    exact endsRun_cons (by decide) (by decide) _

/-- A socket address of the newer kind in characters. -/
theorem toList_text_v6 (host : Ipv6) (port : UInt16) (scope : UInt32) :
    (SocketAddress.v6 host port scope).text.toList =
      '[' :: (host.text.toList ++
        (scopeChars scope ++ ']' :: ':' :: Nat.toDigits 10 port.toNat)) := by
  have hs : (if scope = 0 then "" else "%" ++ toString scope.toNat).toList = scopeChars scope := by
    rw [scopeChars]
    by_cases hz : scope = 0
    · rw [if_pos hz, if_pos hz]
      rfl
    · rw [if_neg hz, if_neg hz, String.toList_append, toList_toString]
      rfl
  have ho : ("[").toList = ['['] := rfl
  have hc : ("]:").toList = [']', ':'] := rfl
  rw [SocketAddress.text]
  simp only [String.toList_append, hs, ho, hc, toList_toString, List.append_assoc,
    List.cons_append, List.nil_append]

/-- A socket address of the older kind in characters. -/
theorem toList_text_v4 (host : Ipv4) (port : UInt16) :
    (SocketAddress.v4 host port).text.toList =
      host.text.toList ++ ':' :: Nat.toDigits 10 port.toNat := by
  have hc : (":").toList = [':'] := rfl
  rw [SocketAddress.text, String.toList_append, String.toList_append, toList_toString, hc,
    List.append_assoc, List.singleton_append]

/-- Every socket address is read back from its text. -/
theorem SocketAddress.read?_text (address : SocketAddress) : read? address.text = some address := by
  cases address with
  | v4 host port =>
    have hh := takeIpv4_text host (halts_colon (Nat.toDigits 10 port.toNat)).outside_digit
    rw [read?, toList_text_v4]
    simp only [readV4, hh, takeChar_cons, endPort_toDigits, Option.bind_eq_bind, Option.bind_some,
      Option.pure_def, Option.orElse_eq_orElse, Option.orElse_some]
  | v6 host port scope =>
    have hh := host.shown_text.takeIpv6_eq
      (endsRun_scopeChars scope (':' :: Nat.toDigits 10 port.toNat))
    -- No dotted form begins with a bracket.
    have hn : takeIpv4 ('[' :: (host.text.toList ++
        (scopeChars scope ++ ']' :: ':' :: Nat.toDigits 10 port.toNat))) = none :=
      (halts_cons (by decide) _).takes_nothing.1
    rw [read?, toList_text_v6]
    simp only [readV4, hn, readV6, takeChar_cons, hh, takeScope_scopeChars, endPort_toDigits,
      Option.bind_eq_bind, Option.bind_some, Option.bind_none, Option.pure_def,
      Option.orElse_eq_orElse, Option.orElse_none]

/-- Without brackets an address of the newer kind and what stands behind it write no socket
address: digits end at a colon in it before a point, and no bracket is in front. -/
theorem SocketAddress.read?_bare (host : Ipv6) (rest : String) :
    read? (host.text ++ rest) = none := by
  obtain ⟨digits, more, same, hex⟩ := host.shown_text.exists_colon
  have hd : takeIpv4 (digits ++ ':' :: (more ++ rest.toList)) = none :=
    takeIpv4_of_group hex (halts_colon _)
  have hb : takeChar '[' (digits ++ ':' :: (more ++ rest.toList)) = none := by
    cases digits with
    | nil => rfl
    | cons char digits =>
      refine if_neg fun bracket => ?_
      exact absurd (bracket ▸ hex char List.mem_cons_self) (by decide)
  rw [read?, String.toList_append, same, List.append_assoc, List.cons_append, readV4, readV6, hd,
    hb]
  rfl

end MediaGateway.Net
