import MediaGateway.Decimal.Binary64

/-!
# Events

What the service tells its operators: an event has a level, a place that it
comes from, a message, and named values.
-/

namespace MediaGateway

/-- How grave an event is, the gravest first. -/
inductive Level where
  /-- Something failed. -/
  | error
  /-- Something is doubtful. -/
  | warn
  /-- Something happened. -/
  | info
  /-- Something of use in a search for errors. -/
  | debug
  /-- Everything else. -/
  | trace
  deriving DecidableEq, Repr

/-- The name of a level. -/
def Level.name : Level → String
  | error => "ERROR"
  | warn => "WARN"
  | info => "INFO"
  | debug => "DEBUG"
  | trace => "TRACE"

/-- The places that events come from. -/
inductive Source where
  /-- The program as a whole. -/
  | program
  /-- The server that listens. -/
  | server
  /-- The handlers of the calls. -/
  | handlers
  /-- The storage behind the service. -/
  | storage
  /-- The log of calls. -/
  | callLog
  /-- The guard against panics. -/
  | panicGuard
  /-- The count of calls. -/
  | metrics
  deriving DecidableEq, Repr

/-- The path that names a place. -/
def Source.path : Source → String
  | program => ""
  | server => "server"
  | handlers => "adapters::controllers::media_controller"
  | storage => "services::imagekit_storage"
  | callLog => "adapters::interceptors::logging"
  | panicGuard => "adapters::interceptors::error_handling"
  | metrics => "adapters::interceptors::metrics"

/-- A value that an event names. -/
inductive Event.Value where
  /-- A text. -/
  | text (content : String)
  /-- An integer. -/
  | integer (content : Int)
  /-- A truth value. -/
  | flag (content : Bool)
  /-- A number of double precision. -/
  | real (content : Binary64)
  deriving DecidableEq, Repr

/-- Something that was told. -/
structure Event where
  /-- How grave it is. -/
  level : Level
  /-- Where it comes from. -/
  source : Source
  /-- What happened. -/
  message : String
  /-- The named values, in the order in which they are told. -/
  fields : List (String × Event.Value)
  deriving DecidableEq, Repr

namespace Event

/-- An event at the usual level. -/
def info (source : Source) (message : String) (fields : List (String × Value)) : Event :=
  ⟨.info, source, message, fields⟩

/-- An event at the level of failures. -/
def error (source : Source) (message : String) (fields : List (String × Value)) : Event :=
  ⟨.error, source, message, fields⟩

end Event

end MediaGateway
