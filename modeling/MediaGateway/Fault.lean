/-!
# Failures of a media operation

A failure has a kind, which decides how a caller is told of it, a message in
plain words, and sometimes a machine code from the place where it arose.
-/

namespace MediaGateway

/-- The six kinds of failure. -/
inductive Fault.Kind where
  /-- What was asked for does not exist. -/
  | notFound
  /-- The request itself is unacceptable. -/
  | invalidArgument
  /-- The content is larger than the service takes. -/
  | sizeExceeded
  /-- The storage provider failed or could not be reached. -/
  | provider
  /-- A batch is larger than the service takes. -/
  | batchFailure
  /-- The service itself is at fault. -/
  | internal
  deriving DecidableEq, Repr

/-- The name of a kind in events. -/
def Fault.Kind.name : Fault.Kind → String
  | .notFound => "NotFound"
  | .invalidArgument => "InvalidArgument"
  | .sizeExceeded => "SizeExceeded"
  | .provider => "UpstreamError"
  | .batchFailure => "BatchFailure"
  | .internal => "Internal"

/-- A failure: its kind, what it says, and the machine code it carries, if any. -/
structure Fault where
  /-- How the caller is told. -/
  kind : Fault.Kind
  /-- The failure in plain words. -/
  message : String
  /-- The machine code of the place where it arose. -/
  code : Option String
  deriving DecidableEq, Repr

namespace Fault

/-- A request that is unacceptable for the stated reason. -/
def invalid (reason : String) : Fault := ⟨.invalidArgument, reason, none⟩

/-- A failure of the service itself. -/
def internal (reason : String) : Fault := ⟨.internal, reason, none⟩

/-- A failure of the provider. -/
def provider (reason : String) (code : Option String) : Fault := ⟨.provider, reason, code⟩

/-- A file that the provider does not know. -/
def fileNotFound (fileId : String) : Fault := ⟨.notFound, "File not found: " ++ fileId, none⟩

/-- The same failure with a machine code in place of the one it carried. -/
def withCode (fault : Fault) (code : String) : Fault := ⟨fault.kind, fault.message, some code⟩

end Fault

end MediaGateway
