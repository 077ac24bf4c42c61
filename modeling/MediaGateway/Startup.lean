import MediaGateway.Log
import MediaGateway.Server
import MediaGateway.Server.Router
import MediaGateway.Startup.Variables
import MediaGateway.Storage.Remote
import MediaGateway.Text.Lowercase

/-!
# Starting up

The program reads its settings from the environment and from a file beside it,
opens its log, and serves until it is told to stop. Settings that cannot be read
end it before there is a log; an address that it cannot listen on ends it with
an entry in the log.
-/

namespace MediaGateway

/-- What the program comes upon when it starts. -/
structure Startup where
  /-- The variables of the environment, in their order. -/
  environment : Startup.Variables
  /-- The content of the file with more variables, where there is one. -/
  file : Option String
  /-- Whether it can listen on a socket address. -/
  canListen : Net.SocketAddress → Bool

namespace Startup

/-- What comes of starting. -/
inductive Outcome where
  /-- It ends at once with an exit code that tells of failure. -/
  | failed
  /-- It serves; when it is told to stop it writes the closing lines and ends well. -/
  | serving (closing : List String)

/-- What starting writes and comes to. -/
structure Report where
  /-- Lines for the standard output. -/
  lines : List String
  /-- Lines for the standard error. -/
  complaints : List String
  /-- What comes of it. -/
  outcome : Outcome

/-- The variables that are known: those of the environment and those of the file. -/
def known (startup : Startup) : Variables :=
  match startup.file with
  | some content => startup.environment.withFile content
  | none => startup.environment

/-- The variable that holds a filter for the log. -/
def filterVariable : String := "RUST_LOG"

/-- The filter of the log, and complaints about it: that of the variable when it can be read,
else that of the settings. -/
def filter (known : Variables) (settings : Settings) : Log.Filter × List String :=
  match (known.value? filterVariable).bind fun text => (Log.Filter.read text).toOption with
  | some filter => (filter, [])
  | none => Log.Filter.readLenient (Text.lowercase settings.logLevel)

/-- What is told first. -/
def openingEvent (settings : Settings) : Event :=
  .info .program "Starting media service"
    [("app_name", .text settings.appName), ("environment", .text settings.environment),
      ("url_endpoint", .text settings.ikUrlEndpoint), ("address", .text settings.listenAddress),
      ("max_workers", .integer settings.maxWorkers.toNat),
      ("metrics_enabled", .flag settings.metricsEnabled)]

/-- What is told of a server that does not serve. -/
def failedEvent (problem : Server.Problem) : Event :=
  .error .program "Server terminated with error" [("error", .text problem.text)]

/-- What is told when the server is set up, before it is known whether it can listen. -/
def listeningEvents (settings : Settings) (address : Net.SocketAddress) : List Event :=
  Storage.Remote.readyEvent :: Server.assembledEvents settings
    ++ [.info .server "gRPC server listening" [("address", .text address.text)]]

/-- What is told when the server is told to stop. -/
def closingEvents : List Event :=
  [.info .server "Received SIGTERM" [], .info .server "Shutting down gRPC server..." [],
    .info .server "Server stopped" []]

/-- What is told of starting under settings, and whether the program serves then. -/
def course (settings : Settings) (canListen : Net.SocketAddress → Bool) : List Event × Bool :=
  match Server.listenAddress settings with
  | .error problem => ([openingEvent settings, failedEvent problem], false)
  | .ok address =>
    let told := openingEvent settings :: listeningEvents settings address
    if canListen address then (told, true) else (told ++ [failedEvent .portTaken], false)

/-- Starts the program. -/
def run (startup : Startup) : Report :=
  match Settings.ofVariables startup.known with
  | .error problem => ⟨[], ["ERROR: " ++ problem.text], .failed⟩
  | .ok settings =>
    let (filter, complaints) := filter startup.known settings
    let log : Log := ⟨settings.logFormat, filter⟩
    let (events, serves) := course settings startup.canListen
    ⟨log.lines events, complaints,
      if serves then .serving (log.lines closingEvents) else .failed⟩

/-- The exit code that the program ends with. -/
def Report.exitCode (report : Report) : UInt8 :=
  match report.outcome with
  | .failed => 1
  | .serving _ => 0

end Startup

end MediaGateway
