/-!
# Kinds of addresses

The scheme in front of an address says what may follow it.
-/

namespace MediaGateway.Url

/-- What a scheme says about the rest of an address. -/
inductive Kind where
  /-- A host must follow. -/
  | web
  /-- A host may follow. -/
  | file
  /-- Anything may follow. -/
  | other
  deriving DecidableEq, Repr

/-- Whether an address names a file. -/
def Kind.isFile (kind : Kind) : Bool := kind = .file

/-- Whether backslashes separate like slashes and the path is never empty. -/
def Kind.isSpecial (kind : Kind) : Bool := kind ≠ .other

/-- The kind of a scheme. -/
def Kind.ofScheme (scheme : String) : Kind :=
  if ["http", "https", "ws", "wss", "ftp"].contains scheme then .web
  else if scheme = "file" then .file
  else .other

/-- The port that a scheme means when none is given. -/
def usualPort? : String → Option Nat
  | "http" => some 80
  | "ws" => some 80
  | "https" => some 443
  | "wss" => some 443
  | "ftp" => some 21
  | _ => none

end MediaGateway.Url
