import MediaGateway.Bytes.Base64
import MediaGateway.Http.Reason
import MediaGateway.Url.Reader

/-!
# Requests over HTTP and what becomes of them

A provider is asked over HTTP: a request has a method, an address, a credential
and a body. What a provider makes of a request may depend on all the requests
before it. It may be out of reach, break off, keep silent, or answer with a
status, headers and a body that is complete, cut short or never ends.
-/

namespace MediaGateway.Http

/-- The methods in use. -/
inductive Method where
  /-- Ask for something. -/
  | get
  /-- Hand something over. -/
  | post
  /-- Change something. -/
  | patch
  /-- Remove something. -/
  | delete
  deriving DecidableEq, Repr

/-- The name of a method. -/
def Method.name : Method → String
  | get => "GET"
  | post => "POST"
  | patch => "PATCH"
  | delete => "DELETE"

/-- What a request carries. -/
inductive Body where
  /-- Nothing. -/
  | empty
  /-- A text in JSON. -/
  | json (text : String)
  /-- The named parts of a form, in order. -/
  | form (parts : List (String × String))
  deriving DecidableEq, Repr

/-- A request. -/
structure Request where
  /-- What is to be done. -/
  method : Method
  /-- Where. -/
  url : Url
  /-- The credential, if one is sent along. -/
  authorization : Option String
  /-- What is handed over. -/
  body : Body
  deriving DecidableEq

/-- The credential of a user whose password is empty. -/
def basicCredential (user : String) : String :=
  "Basic " ++ Base64.encode (Bytes.ofText (user ++ ":"))

/-- How a body ends. -/
inductive BodyEnd where
  /-- Where it was announced to. -/
  | complete
  /-- Before it was announced to. -/
  | cut
  /-- Not within the time given. -/
  | stalled
  deriving DecidableEq, Repr

/-- An answer. -/
structure Answer where
  /-- The number that says what came of the request. -/
  status : Nat
  /-- Named values, in order; names in small letters. -/
  headers : List (String × Bytes)
  /-- The body as far as it came. -/
  body : Bytes
  /-- How the body ended. -/
  bodyEnd : BodyEnd
  deriving DecidableEq

/-- The first header with a name. -/
def Answer.header? (answer : Answer) (name : String) : Option Bytes := answer.headers.lookup name

/-- What a request meets. -/
inductive Encounter where
  /-- No connection. -/
  | refused
  /-- The connection broke off before an answer. -/
  | dropped
  /-- No answer within the time given. -/
  | silent
  /-- An answer. -/
  | answered (answer : Answer)

/-- What becomes of the last of the requests sent so far, the first of them first. -/
abbrev Provider : Type := List Request → Encounter

/-- A provider that cannot be reached. -/
def Provider.unreachable : Provider := fun _ => .refused

/-- Why a request has no usable answer. -/
inductive Problem where
  /-- The text of the address is no address. -/
  | noAddress
  /-- No request can go to the address. -/
  | badAddress (url : Url)
  /-- There was no connection. -/
  | refused (url : Url)
  /-- The connection broke off. -/
  | dropped (url : Url)
  /-- Time ran out. -/
  | timeout
  /-- One answer after another said where else to ask. -/
  | tooManyRedirects (url : Url)
  /-- The body was cut short or is not what it should be. -/
  | undecodable
  deriving DecidableEq

/-- The words for a problem. -/
def Problem.text : Problem → String
  | noAddress => "builder error"
  | badAddress url => "builder error for url (" ++ url.text ++ ")"
  | refused url => "Connection failed: error sending request for url (" ++ url.text ++ ")"
  | dropped url => "error sending request for url (" ++ url.text ++ ")"
  | timeout => "Request timeout"
  | tooManyRedirects url => "error following redirect for url (" ++ url.text ++ ")"
  | undecodable => "Invalid provider response: error decoding response body"

/-- The machine code of a problem. -/
def Problem.code? : Problem → Option String
  | refused _ => some "CONNECT"
  | timeout => some "TIMEOUT"
  | undecodable => some "DECODE"
  | _ => none

end MediaGateway.Http
