import MediaGateway.Proofs.Decimal.Rounding
import MediaGateway.Proofs.Storage.Inquiry

/-!
# Refusing and asking

Some operations are refused before anything is sent: a file that is too large, a
batch that is too long, and a file without an address. Every other operation asks
the provider, unless it issues a credential.
-/

namespace MediaGateway

/-- The size of a file of up to 2 ^ 53 octets is not rounded. -/
theorem Upload.sizeMb_units {upload : Upload} (h : upload.size ≤ Nat.pow 2 53) :
    upload.sizeMb.units * mebibyte = upload.size * Binary64.unit := by
  obtain ⟨scale, hs, hu⟩ : ∃ scale, (∃ shift, scale = Nat.pow 2 shift) ∧
      Binary64.unit = scale * mebibyte := ⟨_, ⟨1054, rfl⟩, by decide +kernel⟩
  have hd : (Binary64.ofNat mebibyte).units = mebibyte * Binary64.unit :=
    Binary64.ofNat_units (by decide)
  have hp : 0 < mebibyte * Binary64.unit :=
    Nat.mul_pos (by decide) (Nat.lt_of_lt_of_le (by decide) Binary64.le_unit)
  have he : upload.size * Binary64.unit * Binary64.unit =
      upload.size * scale * (mebibyte * Binary64.unit) := by
    rw [Nat.mul_assoc, Nat.mul_assoc upload.size, ← Nat.mul_assoc scale, ← hu]
  rw [sizeMb, Binary64.div, Binary64.ofNat_units h, hd, he, Binary64.nearest_units h hs hp, hu,
    Nat.mul_assoc]

namespace Storage.Remote

/-- A file of up to 2 ^ 53 octets is too large exactly when it has more octets than the mebibytes
of the setup. -/
theorem isTooLarge_iff (config : StorageConfig) {upload : Upload}
    (h : upload.size ≤ Nat.pow 2 53) :
    isTooLarge config upload = true ↔
      config.maxFileSizeMb.toNat * Upload.mebibyte < upload.size := by
  have hs := Upload.sizeMb_units h
  have hu := Binary64.le_unit
  rw [isTooLarge, Binary64.less, decide_eq_true_eq]
  by_cases hm : config.maxFileSizeMb.toNat ≤ Nat.pow 2 53
  · rw [Binary64.ofNat_units hm, ← Nat.mul_lt_mul_right (by decide : 0 < Upload.mebibyte), hs,
      Nat.mul_right_comm, Nat.mul_lt_mul_right (by omega : 0 < Binary64.unit)]
  · have hb := Binary64.le_ofNat (Nat.lt_of_not_le hm)
    have h53 : Nat.pow 2 53 = 9007199254740992 := rfl
    have h52 : Nat.pow 2 52 = 4503599627370496 := rfl
    have hl := Nat.mul_le_mul_right Binary64.unit h
    rw [h53] at hm h hl
    rw [h52] at hb
    rw [Upload.mebibyte] at hs ⊢
    constructor <;> intro hc <;> omega

/-- The failure of an address that is none, if it is none. -/
def addressRefusal? (config : StorageConfig) (fileId : String) (about : List String) :
    Option Fault :=
  match fileAddress config fileId about with
  | .error fault => some fault
  | .ok _ => none

/-- The failure of an operation that is refused before anything is sent. -/
def refusal? (config : StorageConfig) : Operation → Option Fault
  | .credential => none
  | .upload content => if isTooLarge config content then some (tooLarge config content) else none
  | .details fileId => addressRefusal? config fileId ["details"]
  | .list _ => none
  | .delete fileId => addressRefusal? config fileId []
  | .deleteAll fileIds => if isTooMany config fileIds then some (tooMany config) else none
  | .update fileId _ => addressRefusal? config fileId ["details"]

/-- How an operation asks the provider, if it does. -/
def inquiry? (config : StorageConfig) : (operation : Operation) → Option (Inquiry operation.Result)
  | .credential => none
  | .upload content => some (uploadInquiry config content)
  | .details fileId => some (detailsInquiry config fileId)
  | .list query => some (listInquiry config query)
  | .delete fileId => some (deleteInquiry config fileId)
  | .deleteAll fileIds => some (deleteAllInquiry config fileIds)
  | .update fileId changes => some (updateInquiry config fileId changes)

/-- A request about a file is withheld when its address is refused. -/
theorem fileRequest_refused {config : StorageConfig} {fileId : String} {about : List String}
    {fault : Fault} (h : addressRefusal? config fileId about = some fault) (method : Http.Method)
    (body : Http.Body) : fileRequest config method fileId about body = .withheld fault := by
  rw [addressRefusal?] at h
  rw [fileRequest]
  cases hf : fileAddress config fileId about with
  | error found =>
    rw [hf] at h
    exact congrArg Prepared.withheld (Option.some.inj h)
  | ok place =>
    rw [hf] at h
    cases h

/-- A request about a file is ready when its address is not refused. -/
theorem fileRequest_ready {config : StorageConfig} {fileId : String} {about : List String}
    (h : addressRefusal? config fileId about = none) (method : Http.Method)
    (body : Http.Body) :
    ∃ request, fileRequest config method fileId about body = .ready request := by
  rw [addressRefusal?] at h
  rw [fileRequest]
  cases hf : fileAddress config fileId about with
  | error found =>
    rw [hf] at h
    cases h
  | ok place => exact ⟨_, rfl⟩

/-- Every operation asks the provider something, unless it issues a credential. -/
theorem exists_inquiry (config : StorageConfig) {operation : Operation}
    (asks : operation ≠ .credential) : ∃ inquiry, inquiry? config operation = some inquiry := by
  cases operation with
  | credential => exact absurd rfl asks
  | upload content => exact ⟨_, rfl⟩
  | details fileId => exact ⟨_, rfl⟩
  | list query => exact ⟨_, rfl⟩
  | delete fileId => exact ⟨_, rfl⟩
  | deleteAll fileIds => exact ⟨_, rfl⟩
  | update fileId changes => exact ⟨_, rfl⟩

/-- A request to an address that is given as text is not withheld. -/
theorem textRequest_ne_withheld (config : StorageConfig) (method : Http.Method) (address : String)
    (pairs : List Url.Form.Pair) (body : Http.Body) (fault : Fault) :
    textRequest config method address pairs body ≠ .withheld fault := by
  rw [textRequest]
  split
  · exact Prepared.noConfusion
  · split <;> exact Prepared.noConfusion

/-- The request of an operation that is not refused is not withheld. -/
theorem request_ne_withheld {config : StorageConfig} {operation : Operation}
    {inquiry : Inquiry operation.Result} (hr : refusal? config operation = none)
    (hi : inquiry? config operation = some inquiry) (fault : Fault) :
    inquiry.request ≠ .withheld fault := by
  have hf : ∀ method fileId about body, addressRefusal? config fileId about = none →
      fileRequest config method fileId about body ≠ .withheld fault := by
    intro method fileId about body h
    obtain ⟨request, hq⟩ := fileRequest_ready h method body
    rw [hq]
    exact Prepared.noConfusion
  cases operation with
  | credential => cases hi
  | upload content =>
    obtain rfl := Option.some.inj hi
    exact textRequest_ne_withheld _ _ _ _ _ _
  | details fileId =>
    obtain rfl := Option.some.inj hi
    exact hf _ _ _ _ hr
  | list query =>
    obtain rfl := Option.some.inj hi
    exact textRequest_ne_withheld _ _ _ _ _ _
  | delete fileId =>
    obtain rfl := Option.some.inj hi
    exact hf _ _ _ _ hr
  | deleteAll fileIds =>
    obtain rfl := Option.some.inj hi
    exact textRequest_ne_withheld _ _ _ _ _ _
  | update fileId changes =>
    obtain rfl := Option.some.inj hi
    exact hf _ _ _ _ hr

/-- A refused operation fails, and nothing changes. -/
theorem storage_refused {remote : Remote} {operation : Operation} {fault : Fault}
    (h : refusal? remote.config operation = some fault) (state : State) :
    (remote.storage operation state).outcome = .failed fault ∧
      (remote.storage operation state).state = state := by
  cases operation with
  | credential => cases h
  | list query => cases h
  | upload content =>
    rw [refusal?] at h
    split at h
    next hl =>
      obtain rfl := Option.some.inj h
      simp only [storage, hl, if_true, and_self]
    · cases h
  | deleteAll fileIds =>
    rw [refusal?] at h
    split at h
    next hl =>
      obtain rfl := Option.some.inj h
      simp only [storage, hl, if_true, and_self]
    · cases h
  | details fileId => exact ask_withheld remote (fileRequest_refused h _ _) state
  | delete fileId => exact ask_withheld remote (fileRequest_refused h _ _) state
  | update fileId changes => exact ask_withheld remote (fileRequest_refused h _ _) state

/-- An operation that is not refused asks the provider, unless it issues a credential. -/
theorem storage_asks {remote : Remote} {operation : Operation} {inquiry : Inquiry operation.Result}
    (hr : refusal? remote.config operation = none)
    (hi : inquiry? remote.config operation = some inquiry) (state : State) :
    remote.storage operation state = remote.ask inquiry state := by
  cases operation with
  | credential => cases hi
  | upload content =>
    obtain rfl := Option.some.inj hi
    rw [refusal?] at hr
    split at hr
    · cases hr
    next hl => simp only [storage, hl, Bool.false_eq_true, if_false]
  | deleteAll fileIds =>
    obtain rfl := Option.some.inj hi
    rw [refusal?] at hr
    split at hr
    · cases hr
    next hl => simp only [storage, hl, Bool.false_eq_true, if_false]
  | details fileId =>
    obtain rfl := Option.some.inj hi
    rfl
  | list query =>
    obtain rfl := Option.some.inj hi
    rfl
  | delete fileId =>
    obtain rfl := Option.some.inj hi
    rfl
  | update fileId changes =>
    obtain rfl := Option.some.inj hi
    rfl

end Storage.Remote

end MediaGateway
