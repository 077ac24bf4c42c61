import MediaGateway.Bytes
import MediaGateway.Fault

/-!
# Call statuses

A call that does not succeed ends in a status: one of seventeen codes, a
message, and octets with details. A failure of a media operation becomes the
status that its kind decides; its machine code never matters.
-/

namespace MediaGateway.Grpc

/-- The seventeen codes, in the order of their numbers. -/
inductive Code where
  /-- Number 0. -/
  | ok
  /-- Number 1. -/
  | cancelled
  /-- Number 2. -/
  | unknown
  /-- Number 3. -/
  | invalidArgument
  /-- Number 4. -/
  | deadlineExceeded
  /-- Number 5. -/
  | notFound
  /-- Number 6. -/
  | alreadyExists
  /-- Number 7. -/
  | permissionDenied
  /-- Number 8. -/
  | resourceExhausted
  /-- Number 9. -/
  | failedPrecondition
  /-- Number 10. -/
  | aborted
  /-- Number 11. -/
  | outOfRange
  /-- Number 12. -/
  | unimplemented
  /-- Number 13. -/
  | internal
  /-- Number 14. -/
  | unavailable
  /-- Number 15. -/
  | dataLoss
  /-- Number 16. -/
  | unauthenticated
  deriving DecidableEq, Repr

namespace Code

/-- Every code, in the order of their numbers. -/
def all : List Code :=
  [.ok, .cancelled, .unknown, .invalidArgument, .deadlineExceeded, .notFound, .alreadyExists,
    .permissionDenied, .resourceExhausted, .failedPrecondition, .aborted, .outOfRange,
    .unimplemented, .internal, .unavailable, .dataLoss, .unauthenticated]

/-- The number that stands for a code on the wire. -/
def number (code : Code) : Nat := all.idxOf code

/-- The name of a code in events and reports. -/
def name : Code → String
  | .ok => "Ok"
  | .cancelled => "Cancelled"
  | .unknown => "Unknown"
  | .invalidArgument => "InvalidArgument"
  | .deadlineExceeded => "DeadlineExceeded"
  | .notFound => "NotFound"
  | .alreadyExists => "AlreadyExists"
  | .permissionDenied => "PermissionDenied"
  | .resourceExhausted => "ResourceExhausted"
  | .failedPrecondition => "FailedPrecondition"
  | .aborted => "Aborted"
  | .outOfRange => "OutOfRange"
  | .unimplemented => "Unimplemented"
  | .internal => "Internal"
  | .unavailable => "Unavailable"
  | .dataLoss => "DataLoss"
  | .unauthenticated => "Unauthenticated"

/-- The code with a given name. -/
def ofName? (name : String) : Option Code := all.find? fun code => code.name = name

/-- The code that a kind of failure is reported with. -/
def ofKind : Fault.Kind → Code
  | .notFound => .notFound
  | .invalidArgument => .invalidArgument
  | .sizeExceeded => .resourceExhausted
  | .provider => .unknown
  | .batchFailure => .failedPrecondition
  | .internal => .internal

end Code

/-- How a call ended that did not succeed. -/
structure Status where
  /-- The code. -/
  code : Code
  /-- The message for the caller. -/
  message : String
  /-- Further octets for the caller, often an encoded message. -/
  details : Bytes
  deriving DecidableEq, Repr

namespace Status

/-- A status without details. -/
def plain (code : Code) (message : String) : Status := ⟨code, message, []⟩

/-- The status of a failure with the given details. -/
def ofFault (fault : Fault) (details : Bytes) : Status :=
  ⟨Code.ofKind fault.kind, fault.message, details⟩

/-- The status of a fault of the service itself; every such message has the same beginning. -/
def internalError (reason : String) : Status :=
  plain .internal ("Internal server error: " ++ reason)

end Status

end MediaGateway.Grpc
