import MediaGateway.Grpc.Status
import MediaGateway.Protobuf.Message

/-!
# Frames

Messages travel in frames: a mark that says whether the message is compressed,
its length in four octets, and the message. A request of a plain call is the
message of the first frame; frames after it must be in order too, but say
nothing. Octets that end with the length of a frame, before its message, end
like octets without that frame.
-/

namespace MediaGateway.Grpc

open Protobuf (Message DecodeError)

/-- What can be wrong with a frame. -/
inductive FrameProblem where
  /-- It says that its message is compressed, in no way that was named. -/
  | compressed
  /-- Its mark is neither of the two that there are. -/
  | badMark (mark : Nat)
  /-- It announces more octets than are taken. -/
  | tooLong (announced limit : Nat)
  /-- It ends before its message does. -/
  | cut
  deriving DecidableEq, Repr

/-- The status of a call whose frames are not in order. -/
def FrameProblem.status : FrameProblem → Status
  | compressed => .plain .internal
    "protocol error: received message with compressed-flag but no grpc-encoding was specified"
  | badMark mark => .plain .internal
    ("protocol error: received message with invalid compression flag: " ++ toString mark
      ++ " (valid flags are 0 and 1), while sending request")
  | tooLong announced limit => .plain .outOfRange
    ("Error, decoded message length too large: found " ++ toString announced
      ++ " bytes, the limit is: " ++ toString limit ++ " bytes")
  | cut => .plain .internal "Unexpected EOF decoding stream."

/-- The frame of a message. -/
def frame (content : Bytes) : Bytes := 0 :: Bytes.ofNatBigEndian 4 content.length ++ content

/-- The message of the first frame and the octets after it; nothing when there is no frame. -/
def takeFrame (limit : Nat) : Bytes → Except FrameProblem (Option (Bytes × Bytes))
  | [] => .ok none
  | mark :: a :: b :: c :: d :: rest =>
    if mark = 1 then .error .compressed
    else if mark ≠ 0 then .error (.badMark mark.toNat)
    else
      let length := Bytes.toNatBigEndian [a, b, c, d]
      if limit < length then .error (.tooLong length limit)
      else match Bytes.splitExact? length rest with
        | some split => .ok (some split)
        | none => if rest = [] then .ok none else .error .cut
  | _ => .error .cut

/-- The message of the first frame, read as a type, and the octets after it. -/
def takeMessage (M : Type) [Message M] (limit : Nat) (bytes : Bytes) :
    Except Status (Option (M × Bytes)) :=
  match takeFrame limit bytes with
  | .error problem => .error problem.status
  | .ok none => .ok none
  | .ok (some (content, rest)) =>
    match (Message.decode content : Except DecodeError M) with
    | .ok message => .ok (some (message, rest))
    | .error error => .error (.plain .internal error.text)

/-- Reads frames to the end; `fuel` is more than there can be. -/
def drain (M : Type) [Message M] (limit : Nat) : (fuel : Nat) → Bytes → Except Status Unit
  | 0, _ => .ok ()
  | fuel + 1, bytes =>
    match takeMessage M limit bytes with
    | .error status => .error status
    | .ok none => .ok ()
    | .ok (some (_, rest)) => drain M limit fuel rest

/-- The request of a plain call. -/
def readRequest (M : Type) [Message M] (limit : Nat) (bytes : Bytes) : Except Status M :=
  match takeMessage M limit bytes with
  | .error status => .error status
  | .ok none => .error (.plain .internal "Missing request message.")
  | .ok (some (message, rest)) => (drain M limit (rest.length + 1) rest).map fun _ => message

end MediaGateway.Grpc
