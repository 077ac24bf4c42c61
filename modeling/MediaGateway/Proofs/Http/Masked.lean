import MediaGateway.Http.Exchange

/-!
# Exchanges behind a mask

A masked request tells whether a credential is sent along, and not which one. A
provider that is blind to credentials makes the same of requests that look the
same behind the mask, so exchanges with it come to the same and send requests that
look the same.
-/

namespace MediaGateway.Http

/-- A request with nothing in place of its credential. -/
def Request.masked (request : Request) : Request :=
  { request with authorization := request.authorization.map fun _ => "" }

/-- A provider that makes the same of requests that look the same behind the mask. -/
def Provider.IsBlind (provider : Provider) : Prop :=
  ∀ left right : List Request, left.map Request.masked = right.map Request.masked →
    provider left = provider right

/-- Requests look the same behind the mask when they differ in nothing but the credential, and each
has one or neither. -/
theorem masked_eq_iff {left right : Request} :
    left.masked = right.masked ↔ left.method = right.method ∧ left.url = right.url ∧
      left.authorization.isSome = right.authorization.isSome ∧ left.body = right.body := by
  obtain ⟨method, url, credential, body⟩ := left
  obtain ⟨otherMethod, otherUrl, otherCredential, otherBody⟩ := right
  have hc : (credential.map fun _ => "") = (otherCredential.map fun _ => "") ↔
      credential.isSome = otherCredential.isSome := by
    cases credential <;> cases otherCredential <;> simp
  simp only [Request.masked, Request.mk.injEq, hc]

/-- The requests that follow look the same when those before them do. -/
theorem masked_redirected {request other : Request} (h : request.masked = other.masked)
    (status : Nat) (place : Url) :
    (redirected request status place).masked = (redirected other status place).masked := by
  obtain ⟨method, url, credential, body⟩ := request
  obtain ⟨otherMethod, otherUrl, otherCredential, otherBody⟩ := other
  obtain ⟨rfl, rfl, hc, rfl⟩ := masked_eq_iff.mp h
  -- Whether the credential stays is decided by the addresses alone.
  have hk : (if sameHost url place then credential else none).isSome =
      (if sameHost url place then otherCredential else none).isSome := by
    split
    · exact hc
    · rfl
  rw [masked_eq_iff]
  simp only [redirected]
  split
  · exact ⟨rfl, rfl, hk, rfl⟩
  · exact ⟨rfl, rfl, hk, rfl⟩

/-- Lists that look the same still do so with one more request each that looks the same. -/
theorem masked_append {sent sentOther : List Request} {request other : Request}
    (hs : sent.map Request.masked = sentOther.map Request.masked)
    (h : request.masked = other.masked) :
    (sent ++ [request]).map Request.masked = (sentOther ++ [other]).map Request.masked := by
  rw [List.map_append, List.map_append, hs, List.map_singleton, List.map_singleton, h]

/-- Requests that look the same are led to the same by an answer. -/
theorem lead_masked {request other : Request} (h : request.masked = other.masked)
    (answer : Answer) : lead request answer = lead other answer := by
  obtain ⟨hm, hu, _, hb⟩ := masked_eq_iff.mp h
  rw [lead, lead, isFollowed, isFollowed, hm, hu, hb]

/-- Exchanges with a blind provider come to the same and send requests that look the same, when they
begin with requests that do. -/
theorem exchange_masked {provider : Provider} (blind : provider.IsBlind) (first : Url)
    (redirections : Nat) {request other : Request} {sent sentOther : List Request}
    (h : request.masked = other.masked)
    (hs : sent.map Request.masked = sentOther.map Request.masked) :
    (exchange provider first redirections request sent).result =
        (exchange provider first redirections other sentOther).result ∧
      (exchange provider first redirections request sent).sent.map Request.masked =
        (exchange provider first redirections other sentOther).sent.map Request.masked := by
  induction redirections using Nat.strongRecOn generalizing request other sent sentOther with
  | ind redirections ih =>
    obtain ⟨_, same, _⟩ := masked_eq_iff.mp h
    have hg := masked_append hs h
    -- Both go to one address and meet one answer, so they part ways nowhere.
    rw [exchange.eq_def, exchange.eq_def provider first redirections other, ← same]
    dsimp only
    rw [← blind _ _ hg]
    split
    · exact ⟨rfl, hg⟩
    · exact ⟨rfl, hg⟩
    · exact ⟨rfl, hg⟩
    next answer _ =>
      rw [← lead_masked h answer]
      split
      · exact ⟨rfl, hg⟩
      · exact ⟨rfl, hg⟩
      next place _ =>
        cases redirections with
        | zero => exact ⟨rfl, hg⟩
        | succ less =>
          dsimp only
          split
          · exact ⟨rfl, hg⟩
          · exact ih less (Nat.lt_succ_self less) (masked_redirected h answer.status place) hg

/-- A blind provider makes the same of requests that look the same. -/
theorem send_masked {provider : Provider} (blind : provider.IsBlind) {request other : Request}
    {sent sentOther : List Request} (h : request.masked = other.masked)
    (hs : sent.map Request.masked = sentOther.map Request.masked) :
    (send provider request sent).result = (send provider other sentOther).result ∧
      (send provider request sent).sent.map Request.masked =
        (send provider other sentOther).sent.map Request.masked := by
  obtain ⟨_, same, _⟩ := masked_eq_iff.mp h
  rw [send, send, ← same]
  split
  · exact exchange_masked blind request.url redirectLimit h hs
  · exact ⟨rfl, hs⟩

end MediaGateway.Http
