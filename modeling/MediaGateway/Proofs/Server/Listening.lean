import MediaGateway.Proofs.Net.Address
import MediaGateway.Proofs.Service.History
import MediaGateway.Startup

/-!
# Listening on an address

A server listens on its host and its port, with a colon between them. A host that is an address
of the older kind is read back together with the port. An address of the newer kind is not, and
starting ends with that, unless the host has brackets around it.
-/

namespace MediaGateway

namespace Net

/-- An address of either kind. -/
inductive IpAddress where
  /-- An address of the older kind. -/
  | v4 (host : Ipv4)
  /-- An address of the newer kind. -/
  | v6 (host : Ipv6)

/-- The usual form of an address. -/
def IpAddress.text : IpAddress → String
  | .v4 host => host.text
  | .v6 host => host.text

/-- The socket address with a port, in no scope. -/
def IpAddress.socket (port : UInt16) : IpAddress → SocketAddress
  | .v4 host => .v4 host port
  | .v6 host => .v6 host port 0

/-- An address is of the older kind. -/
def IpAddress.IsOlder : IpAddress → Prop
  | .v4 _ => True
  | .v6 _ => False

end Net

namespace Server

open Net (IpAddress SocketAddress)

/-- Starting ends with an address that cannot be read: nothing is told after that. -/
def EndsForAddress (settings : Settings) (canListen : SocketAddress → Bool) : Prop :=
  ∃ shown, (Startup.course settings canListen).1.getLast? =
    some (Startup.failedEvent (.badAddress shown))

/-- A host of the older kind is read back with the port. -/
theorem listenAddress_v4 {settings : Settings} {host : Net.Ipv4}
    (named : settings.grpcHost = host.text) :
    listenAddress settings = .ok (.v4 host settings.grpcPort) := by
  have ht : settings.listenAddress = (SocketAddress.v4 host settings.grpcPort).text := by
    rw [Settings.listenAddress, named, SocketAddress.text]
  rw [listenAddress, ht, SocketAddress.read?_text]

/-- A host of the newer kind is not. -/
theorem listenAddress_v6 {settings : Settings} {host : Net.Ipv6}
    (named : settings.grpcHost = host.text) :
    listenAddress settings = .error (.badAddress settings.listenAddress) := by
  have hn : SocketAddress.read? settings.listenAddress = none := by
    rw [Settings.listenAddress, named, String.append_assoc, SocketAddress.read?_bare]
  rw [listenAddress, hn]

/-- In brackets it is. -/
theorem listenAddress_bracketed {settings : Settings} {host : Net.Ipv6}
    (named : settings.grpcHost = "[" ++ host.text ++ "]") :
    listenAddress settings = .ok (.v6 host settings.grpcPort 0) := by
  have hb : ("]" : String) ++ ":" = "]:" := rfl
  have ht : settings.listenAddress = (SocketAddress.v6 host settings.grpcPort 0).text := by
    simp only [Settings.listenAddress, named, SocketAddress.text, if_true, String.append_empty,
      String.append_assoc, ← hb]
  rw [listenAddress, ht, SocketAddress.read?_text]

/-- The words for a port that is taken are not those for an address. -/
theorem portTaken_text_ne (shown : String) :
    Problem.portTaken.text ≠ (Problem.badAddress shown).text := by
  intro same
  have taken : Problem.portTaken.text.toList.head? = some 'g' := by decide
  have bad : (Problem.badAddress shown).text.toList.head? = some 'I' := by
    have ht : (Problem.badAddress shown).text =
        "Invalid listen address " ++ shown ++ ": invalid socket address syntax" := rfl
    have hi : ("Invalid listen address ").toList = 'I' :: ("nvalid listen address ").toList := rfl
    rw [ht, String.toList_append, String.toList_append, hi, List.cons_append, List.cons_append,
      List.head?_cons]
  rw [same, bad] at taken
  exact absurd (Option.some.inj taken) (by decide)

/-- Nothing is told of an address behind the events of a server that is set up, or of a port that
is taken. -/
theorem not_endsForAddress {settings : Settings} {address : SocketAddress}
    (read : listenAddress settings = .ok address) (canListen : SocketAddress → Bool) :
    ¬EndsForAddress settings canListen := by
  rintro ⟨shown, last⟩
  rw [Startup.course, read] at last
  dsimp only at last
  by_cases hc : canListen address = true
  · -- The last event is no failure at all.
    rw [if_pos hc, Startup.listeningEvents, ← List.cons_append, List.getLast?_concat] at last
    have hl : Level.info = Level.error := congrArg Event.level (Option.some.inj last)
    cases hl
  · rw [if_neg hc, List.getLast?_concat] at last
    have hf : (Startup.failedEvent .portTaken).fields =
        (Startup.failedEvent (.badAddress shown)).fields :=
      congrArg Event.fields (Option.some.inj last)
    have ht := (Prod.mk.inj (List.cons.inj hf).1).2
    exact portTaken_text_ne shown (Event.Value.text.inj ht)

/-- A host that is an address is read back with its port exactly when it is of the older kind, and
starting ends with the address exactly when it is not. The server of an older address serves when
it can listen there. An address of the newer kind is refused as it stands; in brackets it is read
back. -/
theorem host_read_back_iff_older {settings : Settings} {host : IpAddress}
    (named : settings.grpcHost = host.text) (canListen : SocketAddress → Bool) :
    (listenAddress settings = .ok (host.socket settings.grpcPort) ↔ host.IsOlder) ∧
    (EndsForAddress settings canListen ↔ ¬host.IsOlder) ∧
    (host.IsOlder →
      (Startup.course settings canListen).2 = canListen (host.socket settings.grpcPort)) ∧
    (¬host.IsOlder →
      listenAddress settings = .error (.badAddress settings.listenAddress) ∧
        listenAddress { settings with grpcHost := "[" ++ host.text ++ "]" } =
          .ok (host.socket settings.grpcPort)) := by
  cases host with
  | v4 host =>
    have older : (IpAddress.v4 host).IsOlder := trivial
    have read : listenAddress settings = .ok (.v4 host settings.grpcPort) := listenAddress_v4 named
    refine ⟨iff_of_true read older, iff_of_false (not_endsForAddress read canListen)
      (not_not_intro older), fun _ => ?_, fun newer => absurd older newer⟩
    rw [Startup.course, read]
    dsimp only
    by_cases hc : canListen (.v4 host settings.grpcPort) = true
    · rw [if_pos hc]
      exact hc.symm
    · rw [if_neg hc]
      exact (eq_false_of_ne_true hc).symm
  | v6 host =>
    have newer : ¬(IpAddress.v6 host).IsOlder := not_false
    have refused : listenAddress settings = .error (.badAddress settings.listenAddress) :=
      listenAddress_v6 named
    have ends : EndsForAddress settings canListen := by
      refine ⟨settings.listenAddress, ?_⟩
      rw [Startup.course, refused]
      rfl
    refine ⟨iff_of_false ?_ newer, iff_of_true ends newer, fun older => absurd older newer,
      fun _ => ⟨refused, listenAddress_bracketed rfl⟩⟩
    rw [refused]
    rintro ⟨⟩

/-- A host of the older kind is listened on, with the highest port. -/
theorem older_host_read_back :
    let settings := { Service.countingSettings true with
      grpcHost := "192.0.2.7"
      grpcPort := 65535 }
    listenAddress settings = .ok (.v4 ⟨192, 0, 2, 7⟩ 65535) ∧
      (Startup.course settings fun _ => true).2 = true := by
  intro settings
  have named : settings.grpcHost = (IpAddress.v4 ⟨192, 0, 2, 7⟩).text := by decide
  obtain ⟨read, -, serves, -⟩ := host_read_back_iff_older named fun _ => true
  exact ⟨read.mpr trivial, serves trivial⟩

/-- The address that leads back to the machine, of the newer kind. -/
def loopback : Net.Ipv6 := ⟨[0, 0, 0, 0, 0, 0, 0, 1], rfl⟩

/-- Where variables name the address that leads back to the machine, starting ends with it. -/
theorem loopback_not_read_back :
    ∃ settings, Settings.ofVariables [("IK_PRIVATE_KEY", "k"), ("IK_PUBLIC_KEY", "p"),
        ("IK_URL_ENDPOINT", "e"), ("GRPC_HOST", "::1")] = .ok settings ∧
      settings.grpcHost = (IpAddress.v6 loopback).text ∧ settings.grpcPort = 50056 ∧
      listenAddress settings = .error (.badAddress "::1:50056") ∧
      ∀ canListen, EndsForAddress settings canListen := by
  refine ⟨_, rfl, by decide, rfl, by decide, fun canListen => ⟨"::1:50056", ?_⟩⟩
  rfl

end Server

end MediaGateway
