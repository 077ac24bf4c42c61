import MediaGateway.Grpc.Frame
import MediaGateway.Proofs.Protobuf.Wire

/-!
# Reading back a frame

A frame of fewer than 2 ^ 32 octets announces the length of its message. So a reader
takes the message as it is, unless it is longer than what is taken, and that is found
out before any octet of it is read. A frame whose mark is not the plain one, or whose
message does not read, gives no request either.
-/

namespace MediaGateway

namespace Bytes

/-- The last octet of a number in big-endian order is its rest by 256. -/
theorem ofNatBigEndian_succ (width value : Nat) :
    ofNatBigEndian (width + 1) value =
      ofNatBigEndian width (value / 256) ++ [UInt8.ofNat value] := by
  have hp : ∀ place, value / Nat.pow 256 (place + 1) = value / 256 / Nat.pow 256 place := by
    intro place
    rw [Nat.div_div_eq_div_mul, Nat.mul_comm]
    rfl
  have hz : value / Nat.pow 256 0 = value := Nat.div_one value
  simp only [ofNatBigEndian, List.range_succ_eq_map, List.map_cons, List.map_map, List.reverse_cons,
    Function.comp_def, Nat.succ_eq_add_one, hp, hz]

/-- One more octet counts the others by 256. -/
theorem toNatBigEndian_append (bytes : Bytes) (octet : UInt8) :
    toNatBigEndian (bytes ++ [octet]) = toNatBigEndian bytes * 256 + octet.toNat := by
  rw [toNatBigEndian, List.foldl_append]
  rfl

/-- A number in big-endian order reads back when it fits in its octets. -/
theorem toNat_ofNatBigEndian {width value : Nat} (h : value < Nat.pow 256 width) :
    toNatBigEndian (ofNatBigEndian width value) = value := by
  induction width generalizing value with
  | zero =>
    have hz : Nat.pow 256 0 = 1 := rfl
    have hv : value = 0 := by omega
    rw [hv]
    rfl
  | succ width ih =>
    have hp : Nat.pow 256 (width + 1) = Nat.pow 256 width * 256 := rfl
    have hd : value / 256 < Nat.pow 256 width := by omega
    have ho : (UInt8.ofNat value).toNat = value % 256 := UInt8.toNat_ofNat'
    rw [ofNatBigEndian_succ, toNatBigEndian_append, ih hd, ho]
    omega

end Bytes

namespace Grpc

open Protobuf (Message DecodeError)

/-- The first frame is taken off, unless its message is too long. -/
theorem takeFrame_frame (limit : Nat) {content : Bytes} (short : content.length < Nat.pow 2 32)
    (rest : Bytes) :
    takeFrame limit (frame content ++ rest) =
      if limit < content.length then .error (.tooLong content.length limit)
      else .ok (some (content, rest)) := by
  obtain ⟨a, b, c, d, hf⟩ : ∃ a b c d, Bytes.ofNatBigEndian 4 content.length = [a, b, c, d] :=
    ⟨_, _, _, _, rfl⟩
  have hn : Bytes.toNatBigEndian [a, b, c, d] = content.length := by
    rw [← hf]
    exact Bytes.toNat_ofNatBigEndian short
  have hs : (content ++ rest).splitExact? content.length = some (content, rest) :=
    Protobuf.splitExact_append content rest
  have hc : frame content ++ rest = 0 :: a :: b :: c :: d :: (content ++ rest) := by
    rw [frame, hf]
    simp only [List.cons_append, List.nil_append]
  rw [hc, takeFrame]
  simp only [hn, hs]
  rfl

/-- A frame with any mark in front of it. -/
def markedFrame (mark : UInt8) (content : Bytes) : Bytes :=
  mark :: Bytes.ofNatBigEndian 4 content.length ++ content

/-- What is wrong with a frame is never told as success. -/
theorem FrameProblem.code_ne (problem : FrameProblem) : problem.status.code ≠ .ok := by
  cases problem <;> exact Code.noConfusion

variable {M : Type} [Message M]

/-- The first message is taken off when it is not too long and reads as one. -/
theorem takeMessage_frame {limit : Nat} {content : Bytes} (short : content.length < Nat.pow 2 32)
    (fits : content.length ≤ limit) {message : M} (decodes : Message.decode content = .ok message)
    (rest : Bytes) : takeMessage M limit (frame content ++ rest) = .ok (some (message, rest)) := by
  have ht := takeFrame_frame limit short rest
  rw [if_neg (Nat.not_lt_of_le fits)] at ht
  rw [takeMessage, ht]
  simp only [decodes]

/-- The message of a frame that is not too long is read. -/
theorem readRequest_frame {limit : Nat} {content : Bytes} (short : content.length < Nat.pow 2 32)
    (fits : content.length ≤ limit) {message : M} (decodes : Message.decode content = .ok message) :
    readRequest M limit (frame content) = .ok message := by
  have hm := takeMessage_frame short fits decodes []
  rw [List.append_nil] at hm
  rw [readRequest, hm]
  rfl

/-- A frame whose message is too long is refused, whatever the message is. -/
theorem readRequest_long {limit : Nat} {content : Bytes} (short : content.length < Nat.pow 2 32)
    (long : limit < content.length) :
    readRequest M limit (frame content) =
      .error (FrameProblem.tooLong content.length limit).status := by
  have ht := takeFrame_frame limit short []
  rw [List.append_nil, if_pos long] at ht
  have hm : takeMessage M limit (frame content) =
      .error (FrameProblem.tooLong content.length limit).status := by
    rw [takeMessage, ht]
  rw [readRequest, hm]

/-- A frame that is not marked as plain, or is too long, or does not read as a message, gives no
message. -/
theorem takeMessage_refused {limit : Nat} {mark : UInt8} {content : Bytes}
    (short : content.length < Nat.pow 2 32)
    (h : mark ≠ 0 ∨ limit < content.length ∨
      ∃ error, (Message.decode content : Except DecodeError M) = .error error) :
    ∃ status : Status, status.code ≠ .ok ∧
      takeMessage M limit (markedFrame mark content) = .error status := by
  by_cases plain : mark = 0
  · have hf : markedFrame mark content = frame content ++ [] := by
      rw [plain, List.append_nil]
      rfl
    have hd := takeFrame_frame limit short []
    rw [hf, takeMessage, hd]
    by_cases long : limit < content.length
    · rw [if_pos long]
      exact ⟨_, FrameProblem.code_ne _, rfl⟩
    · obtain ⟨error, he⟩ := (h.resolve_left (not_not_intro plain)).resolve_left long
      rw [if_neg long]
      simp only [he]
      exact ⟨_, Code.noConfusion, rfl⟩
  · obtain ⟨a, b, c, d, hb⟩ : ∃ a b c d, Bytes.ofNatBigEndian 4 content.length = [a, b, c, d] :=
      ⟨_, _, _, _, rfl⟩
    rw [takeMessage, markedFrame, hb]
    simp only [List.cons_append, takeFrame, ne_eq, plain, not_false_eq_true, if_true]
    by_cases compressed : mark = 1
    · rw [if_pos compressed]
      exact ⟨_, FrameProblem.code_ne _, rfl⟩
    · rw [if_neg compressed]
      exact ⟨_, FrameProblem.code_ne _, rfl⟩

/-- So no request is read from it. -/
theorem readRequest_refused {limit : Nat} (mark : UInt8) {content : Bytes}
    (short : content.length < Nat.pow 2 32)
    (h : mark ≠ 0 ∨ limit < content.length ∨
      ∃ error, (Message.decode content : Except DecodeError M) = .error error) :
    ∃ status : Status, status.code ≠ .ok ∧
      readRequest M limit (markedFrame mark content) = .error status := by
  obtain ⟨status, hc, hm⟩ := takeMessage_refused short h
  refine ⟨status, hc, ?_⟩
  rw [readRequest, hm]

end Grpc

end MediaGateway
