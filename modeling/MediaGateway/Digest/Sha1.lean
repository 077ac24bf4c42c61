import MediaGateway.Bytes

/-!
# SHA-1

The message is closed by one set bit, zeros and its length in bits, cut into
blocks of 64 octets, and each block is mixed into five words in eighty rounds.
-/

namespace MediaGateway.Sha1

/-- The five words carried from block to block. -/
structure State where
  /-- First word. -/
  a : UInt32
  /-- Second word. -/
  b : UInt32
  /-- Third word. -/
  c : UInt32
  /-- Fourth word. -/
  d : UInt32
  /-- Fifth word. -/
  e : UInt32

/-- The words before the first block. -/
def initial : State := ⟨0x67452301, 0xEFCDAB89, 0x98BADCFE, 0x10325476, 0xC3D2E1F0⟩

/-- Rotation of a word to the left by fewer than 32 places. -/
def rotate (word places : UInt32) : UInt32 := (word <<< places) ||| (word >>> (32 - places))

/-- Octets of one block. -/
def blockSize : Nat := 64

/-- The message with its closing: a set bit, zeros up to eight octets before the end of a
block, and the length in bits. -/
def padded (message : Bytes) : Bytes :=
  let zeros := (blockSize - (message.length + 9) % blockSize) % blockSize
  message ++ 0x80 :: (List.replicate zeros 0 ++ Bytes.ofNatBigEndian 8 (message.length * 8))

/-- The big-endian words of octets; a rest of fewer than four octets is dropped. -/
def words : Bytes → List UInt32
  | p :: q :: r :: s :: rest =>
    ((p.toUInt32 <<< 24) ||| (q.toUInt32 <<< 16) ||| (r.toUInt32 <<< 8) ||| s.toUInt32)
      :: words rest
  | _ => []

/-- The schedule of a block grown by `count` words: each is the rotated sum of four earlier ones. -/
def extend : Nat → Array UInt32 → Array UInt32
  | 0, schedule => schedule
  | count + 1, schedule =>
    let size := schedule.size
    let word := schedule.getD (size - 3) 0 ^^^ schedule.getD (size - 8) 0
      ^^^ schedule.getD (size - 14) 0 ^^^ schedule.getD (size - 16) 0
    extend count (schedule.push (rotate word 1))

/-- The mixing function and the constant of a round. -/
def roundParts (round : Nat) (state : State) : UInt32 × UInt32 :=
  if round < 20 then ((state.b &&& state.c) ||| ((~~~ state.b) &&& state.d), 0x5A827999)
  else if round < 40 then (state.b ^^^ state.c ^^^ state.d, 0x6ED9EBA1)
  else if round < 60 then
    ((state.b &&& state.c) ||| (state.b &&& state.d) ||| (state.c &&& state.d), 0x8F1BBCDC)
  else (state.b ^^^ state.c ^^^ state.d, 0xCA62C1D6)

/-- One round on one word of the schedule. -/
def step (state : State) (entry : UInt32 × Nat) : State :=
  let (mix, constant) := roundParts entry.2 state
  ⟨rotate state.a 5 + mix + state.e + constant + entry.1, state.a, rotate state.b 30, state.c,
    state.d⟩

/-- The words after one block. -/
def mixBlock (state : State) (block : Bytes) : State :=
  let schedule := extend 64 (words block).toArray
  let mixed := schedule.toList.zipIdx.foldl step state
  ⟨state.a + mixed.a, state.b + mixed.b, state.c + mixed.c, state.d + mixed.d, state.e + mixed.e⟩

/-- The words after all whole blocks of the octets. -/
def mixAll (state : State) (bytes : Bytes) : State :=
  if bytes.length < blockSize then state
  else mixAll (mixBlock state (bytes.take blockSize)) (bytes.drop blockSize)
termination_by bytes.length
decreasing_by
  simp only [List.length_drop, blockSize] at *
  omega

/-- The twenty octets of the words. -/
def State.toBytes (state : State) : Bytes :=
  [state.a, state.b, state.c, state.d, state.e].flatMap fun word =>
    Bytes.ofNatBigEndian 4 word.toNat

/-- The SHA-1 digest of a message. -/
def digest (message : Bytes) : Bytes := (mixAll initial (padded message)).toBytes

end MediaGateway.Sha1
