import MediaGateway.Proofs.Decimal.Order
import MediaGateway.Proofs.Storage.Outcome

/-!
# The largest file

The size of a file is compared with the ceiling after both were rounded. For a file of
less than 2 ^ 53 octets that makes no difference to a single octet, however high the
ceiling is, and no file at all is refused that is within the ceiling.
-/

namespace MediaGateway

/-- The size of a file in mebibytes is rounded once, as the number of its octets. -/
theorem Upload.sizeMb_mul (upload : Upload) :
    upload.sizeMb.units * mebibyte = (Binary64.ofNat upload.size).units :=
  Binary64.div_exact upload.size (by decide)

namespace Storage.Remote

/-- A file is too large when the number of its octets is larger than that of the ceiling, after both
were rounded. -/
theorem isTooLarge_iff_rounded (config : StorageConfig) (upload : Upload) :
    isTooLarge config upload = true ↔
      (Binary64.ofNat (config.maxFileSizeMb.toNat * Upload.mebibyte)).units <
        (Binary64.ofNat upload.size).units := by
  have hc := Binary64.ofNat_mul_pow config.maxFileSizeMb.toNat 20
  have hm : Nat.pow 2 20 = Upload.mebibyte := by decide
  rw [hm] at hc
  rw [isTooLarge, Binary64.less, decide_eq_true_eq, hc, ← upload.sizeMb_mul,
    Nat.mul_lt_mul_right (by decide : 0 < Upload.mebibyte)]

/-- A file within the ceiling is not too large, whatever its size. -/
theorem isTooLarge_of_within {config : StorageConfig} {upload : Upload}
    (h : upload.size ≤ config.maxFileSizeMb.toNat * Upload.mebibyte) :
    isTooLarge config upload = false := by
  rw [Bool.eq_false_iff, ne_eq, isTooLarge_iff_rounded]
  exact Nat.not_lt_of_le (Binary64.ofNat_mono h)

/-- An upload fails for the size of its file. -/
def FailsForSize (remote : Remote) (upload : Upload) (state : State) : Prop :=
  ∃ fault, (remote.storage (.upload upload) state).outcome = .failed fault ∧
    fault.kind = .sizeExceeded

/-- An upload fails for the size of its file exactly when the file is too large. -/
theorem failsForSize_iff (remote : Remote) (upload : Upload) (state : State) :
    remote.FailsForSize upload state ↔ isTooLarge remote.config upload = true := by
  constructor
  · rintro ⟨fault, failed, kind⟩
    by_contra hl
    have hr : refusal? remote.config (.upload upload) = none := if_neg hl
    rcases kind_of_unrefused hr failed with hk | hk <;> rw [kind] at hk <;> cases hk
  · intro hl
    have hr : refusal? remote.config (.upload upload) = some (tooLarge remote.config upload) :=
      if_pos hl
    exact ⟨_, (storage_refused hr state).1, rfl⟩

/-- An upload of less than 2 ^ 53 octets fails for its size exactly when it has more octets than the
mebibytes of the ceiling: one octet more and it fails, as many as that and it does not. Whatever its
size, it does not fail for it within the ceiling; and when it does, it is said how large the file is
and how large it may be, and nothing is sent. -/
theorem upload_fails_for_size_iff (remote : Remote) (upload : Upload) (state : State) :
    (upload.size < Nat.pow 2 53 →
      (remote.FailsForSize upload state ↔
        remote.config.maxFileSizeMb.toNat * Upload.mebibyte < upload.content.length)) ∧
    (upload.content.length ≤ remote.config.maxFileSizeMb.toNat * Upload.mebibyte →
      ¬remote.FailsForSize upload state) ∧
    (remote.FailsForSize upload state →
      (remote.storage (.upload upload) state).outcome = .failed (tooLarge remote.config upload) ∧
        (remote.storage (.upload upload) state).state = state) := by
  simp only [failsForSize_iff]
  refine ⟨fun small => isTooLarge_iff remote.config (Nat.le_of_lt small), fun within => ?_,
    fun hl => ?_⟩
  · rw [isTooLarge_of_within within]
    exact Bool.false_ne_true
  · have hr : refusal? remote.config (.upload upload) = some (tooLarge remote.config upload) :=
      if_pos hl
    exact storage_refused hr state

/-- A storage with a ceiling of so many mebibytes, whose provider keeps silent. -/
def ceilingRemote (ceiling : UInt64) : Remote :=
  ⟨⟨"private", "http://[::1]", "http://[::1]", 60, ceiling, 100⟩, 0, fun _ => .silent⟩

/-- A file of so many zeros. -/
def zeros (count : Nat) : Upload := ⟨List.replicate count 0, "a", none, none, true, none⟩

/-- A single octet decides: over a ceiling of one mebibyte, and of none. The largest file of less
than 2 ^ 53 octets does not fail under the highest ceiling. -/
theorem single_octet_decides :
    (zeros 1048577).size < Nat.pow 2 53 ∧
      (ceilingRemote 1).FailsForSize (zeros 1048577) ⟨[], []⟩ ∧
      ¬(ceilingRemote 1).FailsForSize (zeros 1048576) ⟨[], []⟩ ∧
      (ceilingRemote 0).FailsForSize (zeros 1) ⟨[], []⟩ ∧
      ¬(ceilingRemote 18446744073709551615).FailsForSize (zeros 9007199254740991) ⟨[], []⟩ := by
  have hs : ∀ count, (zeros count).size = count := fun _ => List.length_replicate
  have decided : ∀ ceiling count, count < Nat.pow 2 53 →
      ((ceilingRemote ceiling).FailsForSize (zeros count) ⟨[], []⟩ ↔
        ceiling.toNat * Upload.mebibyte < count) := by
    intro ceiling count small
    have h := (upload_fails_for_size_iff (ceilingRemote ceiling) (zeros count) ⟨[], []⟩).1
      ((hs count).symm ▸ small)
    rwa [show (zeros count).content.length = count from hs count] at h
  rw [hs, decided _ _ (by decide), decided _ _ (by decide), decided _ _ (by decide),
    decided _ _ (by decide)]
  decide

end Storage.Remote

end MediaGateway
