import MediaGateway.Digest.Hmac

/-!
# The code of a message under a key

A key of any length is brought to one block: with zeros when it is too short, as its
digest with zeros when it is too long. The code is a digest, so it has twenty octets.
-/

namespace MediaGateway

namespace Sha1

/-- A digest has twenty octets. -/
theorem length_digest (message : Bytes) : (digest message).length = 20 := by
  simp only [digest, State.toBytes, Bytes.ofNatBigEndian, List.flatMap_cons, List.flatMap_nil,
    List.length_append, List.length_reverse, List.length_map, List.length_range, List.length_nil]

end Sha1

namespace Hmac

/-- A block stands for a key. -/
structure IsBlock (key block : Bytes) : Prop where
  /-- It has 64 octets. -/
  length : block.length = 64
  /-- A key that fits is followed by zeros. -/
  short : key.length ≤ 64 → ∃ zeros : Bytes, block = key ++ zeros ∧ ∀ octet ∈ zeros, octet = 0
  /-- Of a longer one the digest is followed by zeros. -/
  long : 64 < key.length →
    ∃ zeros : Bytes, block = Sha1.digest key ++ zeros ∧ ∀ octet ∈ zeros, octet = 0

/-- The code of a message under a key: the message is digested behind the block of the key with one
mask, and the outcome behind the block with another. -/
def IsCode (key message code : Bytes) : Prop :=
  ∃ block : Bytes, IsBlock key block ∧
    code = Sha1.digest (block.map (· ^^^ 0x5C) ++
      Sha1.digest (block.map (· ^^^ 0x36) ++ message))

/-- Every key has a block. -/
theorem isBlock_blockKey (key : Bytes) : IsBlock key (blockKey key) := by
  have hz : ∀ count, ∀ octet ∈ List.replicate count (0 : UInt8), octet = 0 :=
    fun count octet member => List.eq_of_mem_replicate member
  by_cases long : 64 < key.length
  · have hb : blockKey key =
        Sha1.digest key ++ List.replicate (64 - (Sha1.digest key).length) 0 := by
      simp only [blockKey, Sha1.blockSize, gt_iff_lt, if_pos long]
    refine ⟨?_, fun short => absurd long (Nat.not_lt_of_le short), fun _ => ⟨_, hb, hz _⟩⟩
    rw [hb, List.length_append, List.length_replicate, Sha1.length_digest]
  · have hb : blockKey key = key ++ List.replicate (64 - key.length) 0 := by
      simp only [blockKey, Sha1.blockSize, gt_iff_lt, if_neg long]
    refine ⟨?_, fun _ => ⟨_, hb, hz _⟩, fun more => absurd more long⟩
    rw [hb, List.length_append, List.length_replicate]
    omega

/-- A key has one block. -/
theorem IsBlock.unique {key left right : Bytes} (h : IsBlock key left) (g : IsBlock key right) :
    left = right := by
  have hz : ∀ {front back other : Bytes}, (∀ octet ∈ back, octet = 0) →
      (∀ octet ∈ other, octet = 0) → (front ++ back).length = (front ++ other).length →
        front ++ back = front ++ other := by
    intro front back other hb ho hl
    rw [List.length_append, List.length_append, Nat.add_left_cancel_iff] at hl
    rw [List.eq_replicate_of_mem hb, List.eq_replicate_of_mem ho, hl]
  have same : left.length = right.length := h.length.trans g.length.symm
  rcases Nat.lt_or_ge 64 key.length with long | short
  · obtain ⟨_, rfl, hl⟩ := h.long long
    obtain ⟨_, rfl, hr⟩ := g.long long
    exact hz hl hr same
  · obtain ⟨_, rfl, hl⟩ := h.short short
    obtain ⟨_, rfl, hr⟩ := g.short short
    exact hz hl hr same

/-- Every message has exactly one code under every key. -/
theorem isCode_iff (key message code : Bytes) :
    IsCode key message code ↔ code = sha1 key message := by
  constructor
  · rintro ⟨block, hb, rfl⟩
    rw [hb.unique (isBlock_blockKey key)]
    rfl
  · rintro rfl
    exact ⟨blockKey key, isBlock_blockKey key, rfl⟩

/-- A code has twenty octets. -/
theorem length_sha1 (key message : Bytes) : (sha1 key message).length = 20 := Sha1.length_digest _

end Hmac

end MediaGateway
