import MediaGateway.Settings

/-!
# The longest message

The longest message is the larger one of two numbers of mebibytes, in octets: the one
that is set, and the largest file with the room beside it. No step on the way can
wrap: what is too large for a word ends up as the largest one.
-/

namespace MediaGateway.Settings

/-- The largest word in figures. -/
theorem largestWord_eq : largestWord = 18446744073709551615 := rfl

/-- The longest message is what arithmetic without bounds makes of it, or the largest word where
that is less. -/
theorem maxMessageBytes_eq (settings : Settings) :
    settings.maxMessageBytes =
      min (max (settings.maxMessageSizeMb.toNat * Upload.mebibyte)
        ((settings.maxFileSizeMb.toNat + headroomMb) * Upload.mebibyte)) largestWord := by
  have hw := largestWord_eq
  rw [maxMessageBytes, Upload.mebibyte]
  omega

/-- The longest message is not below what is set, nor below the largest file and the room beside it,
unless it is the largest word. -/
theorem maxMessageBytes_floor (settings : Settings)
    (h : settings.maxMessageBytes < settings.maxMessageSizeMb.toNat * Upload.mebibyte ∨
      settings.maxMessageBytes <
        (settings.maxFileSizeMb.toNat + headroomMb) * Upload.mebibyte) :
    settings.maxMessageBytes = largestWord := by
  rw [maxMessageBytes_eq] at h ⊢
  omega

/-- Larger settings make for no shorter messages. -/
theorem maxMessageBytes_mono {settings other : Settings}
    (files : settings.maxFileSizeMb ≤ other.maxFileSizeMb)
    (messages : settings.maxMessageSizeMb ≤ other.maxMessageSizeMb) :
    settings.maxMessageBytes ≤ other.maxMessageBytes := by
  have hf := UInt64.le_iff_toNat_le.mp files
  have hm := UInt64.le_iff_toNat_le.mp messages
  rw [maxMessageBytes_eq, maxMessageBytes_eq, Upload.mebibyte]
  omega

/-- Whatever is no longer than the largest file and the room beside it, and fits in memory, is not
too long. -/
theorem le_maxMessageBytes {settings : Settings} {length : Nat} (held : length ≤ largestWord)
    (roomy : length ≤ (settings.maxFileSizeMb.toNat + headroomMb) * Upload.mebibyte) :
    length ≤ settings.maxMessageBytes := by
  rw [maxMessageBytes_eq]
  omega

end MediaGateway.Settings
