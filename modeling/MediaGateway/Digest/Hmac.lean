import MediaGateway.Digest.Sha1

/-!
# Keyed digests

HMAC over SHA-1: the key is brought to the length of one block, and the message
is digested twice, under the key masked in two ways.
-/

namespace MediaGateway.Hmac

/-- The key at block length: a longer key is digested first, a shorter one is filled with zeros. -/
def blockKey (key : Bytes) : Bytes :=
  let short := if key.length > Sha1.blockSize then Sha1.digest key else key
  short ++ List.replicate (Sha1.blockSize - short.length) 0

/-- The key with a mask laid over every octet. -/
def masked (mask : UInt8) (key : Bytes) : Bytes := (blockKey key).map (· ^^^ mask)

/-- The HMAC-SHA1 code of a message under a key. -/
def sha1 (key message : Bytes) : Bytes :=
  Sha1.digest (masked 0x5C key ++ Sha1.digest (masked 0x36 key ++ message))

end MediaGateway.Hmac
