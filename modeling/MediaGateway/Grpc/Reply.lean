import MediaGateway.Bytes.Base64
import MediaGateway.Grpc.Frame
import MediaGateway.Url.Percent

/-!
# Replies

A reply has headers, a body of frames, and trailers after it that hold the
status. A call that fails before its first frame has no body: its status stands
among the headers.
-/

namespace MediaGateway.Grpc

/-- A reply. -/
structure Reply where
  /-- Named values in front of the body. -/
  headers : List (String × String)
  /-- The frames. -/
  body : Bytes
  /-- Named values behind the body, if there are any. -/
  trailers : Option (List (String × String))
  deriving DecidableEq

/-- What the message of a status must not hold as it is. -/
def reservedInStatus (char : Char) : Bool :=
  Url.isUnprintable char || " \"#<>?\x60\x7b\x7d".contains char

/-- The message of a status as a header holds it. -/
def encodeStatusMessage (message : String) : String :=
  Url.percentEncode reservedInStatus message.toList

/-- The named values of a status. -/
def Status.fields (status : Status) : List (String × String) :=
  [("grpc-status", toString status.code.number)]
    ++ (if status.message = "" then [] else [("grpc-message", encodeStatusMessage status.message)])
    ++ (if status.details = [] then []
      else [("grpc-status-details-bin", Base64.encodeBare status.details)])

/-- The header that every reply has. -/
def contentType : String × String := ("content-type", "application/grpc")

/-- The status of a call that went well. -/
def Status.success : Status := .plain .ok ""

namespace Reply

/-- The reply of a call that failed, with further headers. -/
def failedWith (extra : List (String × String)) (status : Status) : Reply :=
  ⟨("content-length", "0") :: contentType :: extra ++ status.fields, [], none⟩

/-- The reply of a call that failed. -/
def failed (status : Status) : Reply := failedWith [] status

/-- The reply of a call with any number of messages and a status at the end. -/
def streamed (messages : List Bytes) (status : Status) : Reply :=
  ⟨[contentType], messages.flatMap frame, some status.fields⟩

/-- The status of a message that is too long to be sent, if it is. -/
def unsendable? (limit length : Nat) : Option Status :=
  if limit < length then
    some (.plain .outOfRange ("Error, encoded message length too large: found " ++ toString length
      ++ " bytes, the limit is: " ++ toString limit ++ " bytes"))
  else if Nat.pow 2 32 ≤ length then
    some (.plain .resourceExhausted
      ("Cannot return body with more than 4GB of data but got " ++ toString length ++ " bytes"))
  else none

/-- The reply of a call with one message. -/
def succeeded (limit : Nat) (content : Bytes) : Reply :=
  match unsendable? limit content.length with
  | some status => streamed [] status
  | none => streamed [content] .success

end Reply

end MediaGateway.Grpc
