import MediaGateway.Api.Description
import MediaGateway.Grpc.Reflection
import MediaGateway.Grpc.Reflection.Description
import MediaGateway.Service
import MediaGateway.Url.Reader

/-!
# Routes

A request over the wire goes to the call that its path names. What is not a
request of that call never reaches the service: it is answered with a status and
nothing is told of it. Reflection is served in development only.
-/

namespace MediaGateway.Server

open Api (Rpc)
open Grpc (Reply Status)

/-- A request over the wire. -/
structure WireRequest where
  /-- What is asked for: a path, perhaps with a query, or an address with scheme and host. -/
  target : String
  /-- How the messages are compressed, where that is said. -/
  encoding : Option String
  /-- The frames. -/
  body : Bytes

/-- The path in a target. A host without a scheme has none. -/
def WireRequest.path (request : WireRequest) : String :=
  let target := request.target.toList
  let place :=
    if target.head? = some '/' then target
    else match target.dropWhile Url.isSchemeChar with
      | ':' :: '/' :: '/' :: rest => rest.dropWhile fun char => char ≠ '/' && Url.inPath char
      | _ => []
  String.ofList (place.takeWhile Url.inPath)

/-- What is told when the server is set up. -/
def assembledEvents (settings : Settings) : List Event :=
  (if settings.reflectionEnabled then [.info .server "gRPC reflection enabled" []] else [])
    ++ [.info .server "Interceptor chain assembled"
      [("interceptors", .text (Text.quotedList (Service.memberNames settings)))]]

/-- The reply to a request whose messages are compressed, if they are. -/
def compressed? (request : WireRequest) : Option Reply :=
  match request.encoding with
  | none => none
  | some encoding =>
    if encoding = "identity" then none
    else some (.failedWith [("grpc-accept-encoding", "identity")]
      (.plain .unimplemented
        ("Content is compressed with \x60" ++ encoding ++ "\x60 which isn't supported")))

/-- The reply to a path that nothing is served under. -/
def unknownPath : Reply := .failed (.plain .unimplemented "")

/-- A request that is dealt with. -/
structure Routed (σ : Type) where
  /-- The reply. -/
  reply : Reply
  /-- What was told. -/
  events : List Event
  /-- The state of the service afterwards. -/
  state : Service.State σ

/-- The reply to a call that is over. -/
def replyOf {ρ : Type} [Protobuf.Message ρ] (limit : Nat) : Chain.Ending ρ → Reply
  | .answered (.ok response) => .succeeded limit (Protobuf.Message.encode response)
  | .answered (.error status) => .failed status
  | .escaped panic => .failed (Status.internalError panic.text)

/-- Deals with a request of a call. -/
def serveCall {σ : Type} (settings : Settings) (storage : Storage σ)
    (took : Nat → Chain.Reading) (rpc : Rpc) (request : WireRequest) (state : Service.State σ) :
    Routed σ :=
  match compressed? request with
  | some reply => ⟨reply, [], state⟩
  | none =>
    match Grpc.readRequest rpc.Request settings.maxMessageBytes request.body with
    | .error status => ⟨.failed status, [], state⟩
    | .ok message =>
      let called := Service.call settings storage took rpc message state
      ⟨replyOf settings.maxMessageBytes called.ending, called.events, called.state⟩

/-- The files that can be asked for. -/
def files : List Protobuf.Descriptor.FileInfo :=
  Api.Description.files ++ [Grpc.Reflection.Description.file]

/-- The reply to a question about what is served. -/
def serveReflection (request : WireRequest) : Reply :=
  match compressed? request with
  | some reply => reply
  | none => Grpc.Reflection.reply files request.body

/-- Deals with a request. -/
def serve {σ : Type} (settings : Settings) (storage : Storage σ) (took : Nat → Chain.Reading)
    (request : WireRequest) (state : Service.State σ) : Routed σ :=
  match Rpc.ofPath? request.path with
  | some rpc => serveCall settings storage took rpc request state
  | none =>
    if settings.reflectionEnabled ∧ request.path = Grpc.Reflection.Description.path then
      ⟨serveReflection request, [], state⟩
    else ⟨unknownPath, [], state⟩

end MediaGateway.Server
