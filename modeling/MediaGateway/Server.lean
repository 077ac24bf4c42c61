import MediaGateway.Net.Address
import MediaGateway.Service.Members

/-!
# Listening

The server listens on the host and port of its settings, provided that they
write a socket address; names of hosts are not looked up.
-/

namespace MediaGateway.Server

/-- Why a server does not serve. -/
inductive Problem where
  /-- Host and port write no socket address. -/
  | badAddress (address : String)
  /-- The port is taken. -/
  | portTaken
  deriving DecidableEq, Repr

/-- The words for a problem. -/
def Problem.text : Problem → String
  | badAddress address =>
    "Invalid listen address " ++ address ++ ": invalid socket address syntax"
  | portTaken => "gRPC transport error: transport error"

/-- The socket address to listen on. -/
def listenAddress (settings : Settings) : Except Problem Net.SocketAddress :=
  match Net.SocketAddress.read? settings.listenAddress with
  | some address => .ok address
  | none => .error (.badAddress settings.listenAddress)

end MediaGateway.Server
