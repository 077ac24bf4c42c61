import MediaGateway.Http.Exchange
import MediaGateway.Storage
import MediaGateway.Text.Blank

/-!
# Asking the provider

Every operation that asks the provider goes the same way: its start is told, one
request goes out, and the answer is taken for a result, for a file that is not
there, or for a failure that the answer describes.
-/

namespace MediaGateway.Storage

/-- The failure of a request without a usable answer. -/
def problemFault (problem : Http.Problem) : Fault := .provider problem.text problem.code?

/-- The failure of a request that was answered with the given status. -/
def statusFault (context : String) (status : Nat) (body : String) : Fault :=
  let detail := Text.trim body
  let described := if detail = "" then "" else ": " ++ detail
  .provider (context ++ ": status " ++ Http.statusText status ++ described) (some (toString status))

/-- A request that is about to be sent. -/
inductive Prepared where
  /-- It can be sent. -/
  | ready (request : Http.Request)
  /-- It cannot be sent, and that is told like any failure to send. -/
  | unsendable (problem : Http.Problem)
  /-- It is not to be sent, and nothing is told of that. -/
  | withheld (fault : Fault)

/-- One operation that asks the provider. -/
structure Inquiry (α : Type) where
  /-- What is told at the start. -/
  started : Event
  /-- The request. -/
  request : Prepared
  /-- The file that a missing one is, where the operation is about one file. -/
  subject : Option String
  /-- How a failure begins that an answer describes. -/
  context : String
  /-- What is told of a failure. -/
  failedText : String
  /-- The values that go with it. -/
  failedFields : List (String × Event.Value)
  /-- Whether a status promises a result. -/
  accepts : Nat → Bool
  /-- The result of an answer. -/
  result : Http.Answer → Except Http.Problem α
  /-- What is told of a result. -/
  finished : α → Event

namespace Inquiry

variable {α : Type}

/-- What is told of a failure. -/
def failedEvent (inquiry : Inquiry α) (fault : Fault) : Event :=
  .error .storage inquiry.failedText (inquiry.failedFields ++ [("error", .text fault.message)])

/-- What is told of a file that is not there. -/
def missingEvent (fileId : String) : Event :=
  .info .storage "File not found" [("file_id", .text fileId)]

/-- How an operation ends, and what is told of that. -/
abbrev Ending (α : Type) : Type := Except Fault α × List Event

/-- The ending after a request without a usable answer. -/
def unanswered (inquiry : Inquiry α) (problem : Http.Problem) : Ending α :=
  (.error (problemFault problem), [inquiry.failedEvent (problemFault problem)])

/-- The ending after an answer that promises a result. Nothing is told when the result cannot
be read. -/
def accepted (inquiry : Inquiry α) (answer : Http.Answer) : Ending α :=
  match inquiry.result answer with
  | .ok result => (.ok result, [inquiry.finished result])
  | .error problem => (.error (problemFault problem), [])

/-- The ending after an answer that describes a failure. -/
def rejected (inquiry : Inquiry α) (answer : Http.Answer) : Ending α :=
  let fault := statusFault inquiry.context answer.status answer.bodyText
  (.error fault, [inquiry.failedEvent fault])

/-- The ending after an answer. -/
def answered (inquiry : Inquiry α) (answer : Http.Answer) : Ending α :=
  match inquiry.subject with
  | some fileId =>
    if answer.status = 404 then (.error (.fileNotFound fileId), [missingEvent fileId])
    else if inquiry.accepts answer.status then inquiry.accepted answer
    else inquiry.rejected answer
  | none =>
    if inquiry.accepts answer.status then inquiry.accepted answer
    else inquiry.rejected answer

/-- An operation that is over: its ending and the requests sent so far. -/
structure Report (α : Type) where
  /-- The result or the failure. -/
  result : Except Fault α
  /-- What was told. -/
  events : List Event
  /-- The requests sent so far. -/
  sent : List Http.Request

/-- Carries out an operation. -/
def run (inquiry : Inquiry α) (provider : Http.Provider) (sent : List Http.Request) : Report α :=
  match inquiry.request with
  | .withheld fault => ⟨.error fault, [inquiry.started], sent⟩
  | .unsendable problem =>
    let (result, told) := inquiry.unanswered problem
    ⟨result, inquiry.started :: told, sent⟩
  | .ready request =>
    let exchanged := Http.send provider request sent
    let (result, told) := match exchanged.result with
      | .error problem => inquiry.unanswered problem
      | .ok answer => inquiry.answered answer
    ⟨result, inquiry.started :: told, exchanged.sent⟩

end Inquiry

end MediaGateway.Storage
