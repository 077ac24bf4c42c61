import MediaGateway.Json
import MediaGateway.Log.Filter
import MediaGateway.Settings

/-!
# Lines of the log

An event is written as one record in JSON or as one line for people, whichever
the settings say, unless the filter holds it back.
-/

namespace MediaGateway

/-- How events are written. -/
structure Log where
  /-- The form of the lines. -/
  format : LogFormat
  /-- Which events are written. -/
  filter : Log.Filter

namespace Log

/-- The path of a place, seen from outside the program. -/
def path (source : Source) : String :=
  if source.path = "" then "media_service" else "media_service::" ++ source.path

/-- A value in a record. -/
def jsonValue : Event.Value → Json.Value
  | .text content => .text content
  | .integer content =>
    if 0 ≤ content then .number (.natural content.toNat) else .number (.negative content.natAbs)
  | .flag content => .flag content
  | .real content => .number (.real false content)

/-- The record of an event. -/
def jsonLine (event : Event) : String :=
  (Json.Value.record [
    ("level", .text event.level.name),
    ("fields", .record (("message", .text event.message)
      :: event.fields.map fun field => (field.1, jsonValue field.2))),
    ("target", .text (path event.source))]).compact

/-- A number in a line for people. Unlike in a record, it has an exponent already where it is below
a ten-thousandth, and a plus sign never stands in front of that. -/
def plainReal (value : Binary64) : String :=
  if value.units = 0 then "0.0"
  else
    let scaled := Decimal.shortest value
    let digits := Json.digitChars scaled.digits
    let exponent : Int := digits.length + scaled.exponent - 1
    if -4 ≤ exponent ∧ exponent < 16 then String.ofList (Json.scaledChars scaled)
    else
      let rest := digits.drop 1
      String.ofList (digits.take 1 ++ if rest = [] then [] else '.' :: rest)
        ++ "e" ++ toString exponent

/-- A value in a line for people. -/
def plainValue : Event.Value → String
  | .text content => content
  | .integer content => toString content
  | .flag content => if content then "true" else "false"
  | .real content => plainReal content

/-- The line for people of an event. -/
def plainLine (event : Event) : String :=
  event.level.name ++ " " ++ path event.source ++ ": " ++ event.message
    ++ String.join (event.fields.map fun field => " " ++ field.1 ++ "=" ++ plainValue field.2)

/-- The line of an event. -/
def line (log : Log) (event : Event) : String :=
  match log.format with
  | .json => jsonLine event
  | .console => plainLine event

/-- The names of the fields of an event, its message among them. -/
def fieldNames (event : Event) : List String := "message" :: event.fields.map fun field => field.1

/-- Whether an event is written. -/
def writes (log : Log) (event : Event) : Bool :=
  log.filter.writes (path event.source) (fieldNames event) event.level

/-- The lines of the events that are written. -/
def lines (log : Log) (events : List Event) : List String :=
  (events.filter log.writes).map log.line

end Log

end MediaGateway
