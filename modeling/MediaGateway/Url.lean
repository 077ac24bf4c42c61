import MediaGateway.Url.Form
import MediaGateway.Url.Host
import MediaGateway.Url.Path

/-!
# Addresses

An address has a scheme, often a host and a port, a path, and perhaps a query and
a fragment. Addresses of the web and of files have segments in their path always;
any other address may have a plain text instead.
-/

namespace MediaGateway

/-- Host and port. -/
structure Url.Authority where
  /-- The host as it is written, perhaps empty. -/
  host : String
  /-- The port, unless it is the usual one of the scheme. -/
  port : Option Nat
  deriving DecidableEq, Repr

/-- Where a host keeps what is meant. -/
inductive Url.Path where
  /-- Segments, each after a slash. -/
  | segments (names : List String)
  /-- A text without structure. -/
  | plain (text : String)
  deriving DecidableEq, Repr

/-- An address. -/
structure Url where
  /-- The scheme in small letters. -/
  scheme : String
  /-- Host and port, if two slashes announced them. -/
  authority : Option Url.Authority
  /-- The path. -/
  path : Url.Path
  /-- What follows a question mark. -/
  query : Option String
  /-- What follows a number sign. -/
  fragment : Option String
  deriving DecidableEq, Repr

namespace Url

/-- The kind of an address. -/
def kind (url : Url) : Kind := Kind.ofScheme url.scheme

/-- Whether an address names a host. -/
def hasHost (url : Url) : Bool :=
  match url.authority with
  | some authority => authority.host ≠ ""
  | none => false

/-- The text of host and port. -/
def Authority.text (authority : Authority) : String :=
  match authority.port with
  | none => authority.host
  | some port => authority.host ++ ":" ++ toString port

/-- The text of a path. -/
def Path.text : Path → String
  | segments names => pathText names
  | plain text => text

/-- The text of host and path together. Where a path without a host would begin like a host,
a dot segment stands in between. -/
def placeText (url : Url) : String :=
  match url.authority, url.path with
  | some authority, path => "//" ++ authority.text ++ path.text
  | none, .segments ("" :: names) =>
    if names = [] then pathText [""] else "/." ++ pathText ("" :: names)
  | none, path => path.text

/-- An optional part behind its mark. -/
def markedText (mark : String) : Option String → String
  | none => ""
  | some text => mark ++ text

/-- The text of an address. -/
def text (url : Url) : String :=
  url.scheme ++ ":" ++ url.placeText ++ markedText "?" url.query ++ markedText "#" url.fragment

/-- The address with one more segment in its path; nothing when the path has no segments. -/
def push? (url : Url) (segment : String) : Option Url :=
  match url.path with
  | .segments names =>
    some { url with path := .segments (appendSegment url.kind names segment) }
  | .plain _ => none

/-- The address with several more segments. -/
def pushAll? (url : Url) (segments : List String) : Option Url :=
  segments.foldlM push? url

/-- The address with pairs after what its query holds. -/
def withPairs (url : Url) (pairs : List Form.Pair) : Url :=
  match url.query with
  | none => { url with query := some (Form.encode pairs) }
  | some "" => { url with query := some (Form.encode pairs) }
  | some before => { url with query := some (before ++ "&" ++ Form.encode pairs) }

end Url

end MediaGateway
