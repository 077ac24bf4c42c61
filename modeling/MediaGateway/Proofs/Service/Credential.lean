import Mathlib
import MediaGateway.Proofs.Digest.Hmac
import MediaGateway.Proofs.Service.Response
import MediaGateway.Proofs.Service.Sending
import MediaGateway.Proofs.Text.Numeral
import MediaGateway.Proofs.Uuid

/-!
# Issued credentials

A call for a credential always succeeds: it asks nobody, and every key has a code. What
is signed is the token and the second at which it lapses, with nothing between them;
since all tokens have the same length, the one signed text belongs to one token and one
second.
-/

namespace MediaGateway

open Storage (Remote)

/-- The text that a credential signs. -/
def Api.GetUploadAuthResponse.signedText (response : Api.GetUploadAuthResponse) : String :=
  response.token ++ toString response.expire.toInt

namespace Service

/-- The seconds of a calendar with the years -262143 to 262142, counted from 1970. -/
def InCalendar (now : Int) : Prop := -8334601228800 ≤ now ∧ now ≤ 8210266876799

/-- Half an hour after any second of the calendar is in the range of 64 bits. -/
theorem InCalendar.inRange64 {now : Int} (h : InCalendar now) : Text.InRange64 (now + 1800) := by
  have bound : Int.pow 2 63 = 9223372036854775808 := rfl
  rw [Text.InRange64, bound]
  obtain ⟨least, greatest⟩ := h
  omega

/-- A credential issued at a second and from random octets. -/
structure Issued (settings : Settings) (now : Int) (random : Bytes)
    (response : Api.GetUploadAuthResponse) : Prop where
  /-- The call succeeded. -/
  success : response.success = true
  /-- There is no reason for a failure. -/
  errorMessage : response.errorMessage = ""
  /-- The token is an identifier of version 4. -/
  version : Uuid.IsVersion4 response.token
  /-- Its digits are read as octets that are the random ones but for the fixed bits. -/
  token : ∃ octets, Uuid.octets? response.token = some octets ∧ Uuid.Agree octets random
  /-- It lapses half an hour later. -/
  expire : response.expire.toInt = now + 1800
  /-- The public key is that of the settings. -/
  publicKey : response.publicKey = settings.ikPublicKey
  /-- The signature is read as the code of the signed text under the private key. -/
  signature : ∃ code, Bytes.ofHex? response.signature = some code ∧
    Hmac.IsCode (Bytes.ofText settings.ikPrivateKey) (Bytes.ofText response.signedText) code
  /-- It has forty digits. -/
  length : response.signature.toList.length = 40
  /-- They are lower-case hexadecimal ones. -/
  digits : ∀ char ∈ response.signature.toList, Bytes.IsHexDigit char

/-- The response for a credential made from sixteen octets is an issued one. -/
theorem issued_credentialResponse (settings : Settings) {now : Int} {random : Bytes}
    (range : Text.InRange64 (now + 1800)) (full : random.length = 16) :
    Issued settings now random (credentialResponse settings.ikPublicKey
      (Remote.uploadCredential settings.ikPrivateKey now random)) := by
  have he : (Remote.lapse now).toInt = now + 1800 := Int64.toInt_ofInt_of_le range.1 range.2
  refine ⟨rfl, rfl, Uuid.isVersion4_ofRandom full,
    ⟨_, Uuid.octets?_ofRandom full, Uuid.agree_stamp full⟩, he, rfl,
    ⟨_, Bytes.ofHex?_toHex _, (Hmac.isCode_iff _ _ _).mpr rfl⟩, ?_, fun char member => ?_⟩
  · simp only [credentialResponse, Remote.uploadCredential, Remote.signature, Bytes.toHex,
      String.toList_ofList, Bytes.length_hexPairs, Hmac.length_sha1]
  · rw [credentialResponse, Remote.uploadCredential, Remote.signature, Bytes.toHex,
      String.toList_ofList] at member
    exact Bytes.isHexDigit_of_mem_hexPairs member

section

variable {settings other : Settings} {now later : Int} {left right : Bytes}
  {first second : Api.GetUploadAuthResponse}

/-- Credentials with the same token were made from octets that are the same but for the fixed
bits. -/
theorem Issued.agree (h : Issued settings now left first) (g : Issued other later right second)
    (same : first.token = second.token) : Uuid.Agree left right := by
  obtain ⟨octets, hr, ha⟩ := h.token
  obtain ⟨others, gr, ga⟩ := g.token
  rw [same, gr, Option.some.injEq] at hr
  exact ha.symm.trans (hr ▸ ga)

/-- Credentials with the same signed text have the same token and lapse at the same second: the
tokens have the same length, so the text is divided at the same place. -/
theorem Issued.eq_of_signedText (h : Issued settings now left first)
    (g : Issued other later right second) (same : first.signedText = second.signedText) :
    first.token = second.token ∧ first.expire = second.expire := by
  have hs := congrArg String.toList same
  rw [Api.GetUploadAuthResponse.signedText, Api.GetUploadAuthResponse.signedText,
    String.toList_append, String.toList_append] at hs
  obtain ⟨ht, he⟩ := List.append_inj hs (h.version.length.trans g.version.length.symm)
  exact ⟨String.toList_inj.mp ht,
    Int64.toInt_inj.mp (Int.repr_injective (String.toList_inj.mp he))⟩

end

/-- A credential is issued under every private key and public key, at every second of the calendar,
and from every sixteen octets, which are then spent; nothing is sent. The token tells the octets
apart but for the fixed bits, and no two credentials share a signed text unless they share the token
and the second. -/
theorem credential_issued :
    (∀ (settings : Settings) (now : Int) (provider : Http.Provider) (took : Nat → Chain.Reading)
        (state : State Remote.State) (random : Bytes), InCalendar now →
      Reached state → state.storage.random.head? = some random → random.length = 16 →
        ∃ response : Api.GetUploadAuthResponse, Issued settings now random response ∧
          (call settings (Remote.mk (.ofSettings settings) now provider).storage took
            .getUploadAuth ⟨⟩ state).ending = .answered (.ok response) ∧
          (call settings (Remote.mk (.ofSettings settings) now provider).storage took
            .getUploadAuth ⟨⟩ state).state.storage =
              ⟨state.storage.sent, state.storage.random.drop 1⟩) ∧
    ∀ (settings other : Settings) (now later : Int) (left right : Bytes)
        (first second : Api.GetUploadAuthResponse), Issued settings now left first →
      Issued other later right second →
        (first.token = second.token → Uuid.Agree left right) ∧
          (first.signedText = second.signedText →
            first.token = second.token ∧ first.expire = second.expire) := by
  constructor
  · intro settings now provider took state random calendar reached head full
    let remote : Remote := ⟨.ofSettings settings, now, provider⟩
    have done : (remote.storage (operationOf .getUploadAuth ⟨⟩) state.storage).outcome =
        .done (Remote.uploadCredential settings.ikPrivateKey now random) := by
      have hr : state.storage.random.head?.getD Remote.noRandom = random := by rw [head]; rfl
      exact congrArg (fun octets => Storage.Outcome.done
        (Remote.uploadCredential settings.ikPrivateKey now octets)) hr
    exact ⟨_, issued_credentialResponse settings calendar.inRange64 full,
      call_of_done settings remote took reached rfl done,
      (call_accepted settings remote took reached rfl).1⟩
  · intro settings other now later left right first second h g
    exact ⟨h.agree g, h.eq_of_signedText g⟩

/-- Sixteen octets with all bits set, and sixteen of which the last differs in one bit. -/
def twoRandoms : List Bytes := [List.replicate 16 0xFF, List.replicate 15 0xFF ++ [0xFE]]

/-- A storage half an hour and five seconds before 1970. -/
def earlyRemote : Remote :=
  ⟨.ofSettings (countingSettings true), -1805, Remote.silentRemote.provider⟩

/-- A call for a credential to it. -/
def issuing (state : State Remote.State) : Called Remote.State Api.GetUploadAuthResponse :=
  call (countingSettings true) earlyRemote.storage (fun _ => 7) .getUploadAuth ⟨⟩ state

/-- Two calls one after the other sign different texts, though what they issue lapses at the same
second. -/
theorem early_credentials_told_apart :
    ∃ first second : Api.GetUploadAuthResponse,
      (issuing (.initial ⟨[], twoRandoms⟩)).ending = .answered (.ok first) ∧
      (issuing (issuing (.initial ⟨[], twoRandoms⟩)).state).ending = .answered (.ok second) ∧
      first.expire.toInt = -5 ∧ second.expire.toInt = -5 ∧
        first.signedText ≠ second.signedText := by
  have calendar : InCalendar (-1805) := ⟨by decide, by decide⟩
  have differ : ¬Uuid.Agree (List.replicate 16 0xFF) (List.replicate 15 0xFF ++ [0xFE]) :=
    fun agree => absurd (agree.bits 15 0 (by decide)) (by decide)
  obtain ⟨issues, apart⟩ := credential_issued
  obtain ⟨first, hf, ending, storage⟩ := issues (countingSettings true) (-1805)
    Remote.silentRemote.provider (fun _ => 7) (.initial ⟨[], twoRandoms⟩) _ calendar (.initial _)
      rfl rfl
  have reached : Reached (issuing (.initial ⟨[], twoRandoms⟩)).state :=
    (Reached.initial _).after _ _ _ _ _
  have next : (issuing (.initial ⟨[], twoRandoms⟩)).state.storage.random.head? =
      some (List.replicate 15 0xFF ++ [0xFE]) := congrArg (·.random.head?) storage
  obtain ⟨second, hs, again, _⟩ := issues (countingSettings true) (-1805)
    Remote.silentRemote.provider (fun _ => 7) _ _ calendar reached next rfl
  obtain ⟨agree, same⟩ := apart _ _ _ _ _ _ _ _ hf hs
  exact ⟨first, second, ending, again, hf.expire, hs.expire,
    fun text => differ (agree (same text).1)⟩

end Service

end MediaGateway
