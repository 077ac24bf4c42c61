import MediaGateway.Http.Exchange

/-!
# What an exchange sends

An exchange sends its own request first, if any request can go to its address,
and nothing at all otherwise. What else it sends comes from answers that say
where else to ask, and hands over the same or nothing.
-/

namespace MediaGateway.Http

/-- A request that cannot be sent is not sent, and neither is another one. -/
theorem send_unsendable (provider : Provider) {request : Request}
    (h : isSendable request.url = false) (sent : List Request) :
    send provider request sent = ⟨.error (.badAddress request.url), sent⟩ := by
  rw [send, h]
  rfl

/-- Nothing keeps a request from an address of the web that names a host. -/
theorem obstacle_eq_none_iff {first place : Url} :
    obstacle? first place = none ↔ isWebAddress place = true := by
  rw [obstacle?, isWebAddress]
  cases isWeb place <;> cases place.hasHost <;> simp

/-- Requests that follow another one, each because the answer to the one before it said where else
to ask. -/
inductive Follows (provider : Provider) : List Request → Request → List Request → Prop where
  /-- No request follows. -/
  | done (sent : List Request) (last : Request) : Follows provider sent last []
  /-- The next one goes where the answer said. -/
  | next {sent more : List Request} {last : Request} {answer : Answer} {place : Url}
    (answered : provider (sent ++ [last]) = .answered answer)
    (told : lead last answer = .elsewhere place)
    (reachable : isWebAddress place = true)
    (later : Follows provider (sent ++ [last]) (redirected last answer.status place) more) :
    Follows provider sent last (redirected last answer.status place :: more)

/-- An exchange sends its request, and nothing but what follows it after it. -/
theorem exchange_follows (provider : Provider) (first : Url) (redirections : Nat)
    (request : Request) (sent : List Request) :
    ∃ more, (exchange provider first redirections request sent).sent = sent ++ request :: more ∧
      Follows provider sent request more := by
  induction redirections using Nat.strongRecOn generalizing request sent with
  | ind redirections ih =>
    have hd : ∃ more, sent ++ [request] = sent ++ request :: more ∧
        Follows provider sent request more := ⟨[], rfl, .done sent request⟩
    rw [exchange.eq_def]
    dsimp only
    split
    · exact hd
    · exact hd
    · exact hd
    next answer answered =>
      split
      · exact hd
      · exact hd
      next place told =>
        cases redirections with
        | zero => exact hd
        | succ less =>
          dsimp only
          split
          · exact hd
          next reachable =>
            obtain ⟨more, hm, later⟩ := ih less (Nat.lt_succ_self less)
              (redirected request answer.status place) (sent ++ [request])
            refine ⟨redirected request answer.status place :: more, ?_,
              .next answered told (obstacle_eq_none_iff.mp reachable) later⟩
            rw [hm, List.append_assoc, List.singleton_append]

/-- A request that hands over a body by a method, or else only asks for what is there. -/
def Request.Hands (method : Method) (body : Body) (request : Request) : Prop :=
  (request.method = method ∧ request.body = body) ∨
    (request.method = .get ∧ request.body = .empty)

/-- What hands over the body of a request by its method hands over what that does. -/
theorem Request.Hands.trans {method : Method} {body : Body} {next last : Request}
    (h : next.Hands method body) (g : last.Hands next.method next.body) :
    last.Hands method body := by
  rcases g with ⟨same, carried⟩ | bare
  · simpa only [Request.Hands, same, carried] using h
  · exact .inr bare

/-- A request that goes elsewhere hands over what the one before it does. -/
theorem redirected_hands (request : Request) (status : Nat) (place : Url) :
    (redirected request status place).Hands request.method request.body := by
  rw [redirected]
  split
  · exact .inr ⟨rfl, rfl⟩
  · exact .inl ⟨rfl, rfl⟩

/-- All requests that follow another one hand over what it does. -/
theorem Follows.hands {provider : Provider} {sent more : List Request} {last : Request}
    (follows : Follows provider sent last more) :
    ∀ request ∈ more, request.Hands last.method last.body := by
  induction follows with
  | done => exact fun request member => absurd member List.not_mem_nil
  | @next sent more last answer place answered told reachable later ih =>
    have once := redirected_hands last answer.status place
    exact List.forall_mem_cons.mpr ⟨once, fun request member => once.trans (ih request member)⟩

/-- Everything that is sent for a request hands over what it does. -/
theorem send_hands (provider : Provider) (request : Request) (sent : List Request) :
    ∃ more, (send provider request sent).sent = sent ++ more ∧
      ∀ later ∈ more, later.Hands request.method request.body := by
  cases h : isSendable request.url with
  | false =>
    rw [send_unsendable provider h]
    exact ⟨[], (List.append_nil sent).symm, fun later member => absurd member List.not_mem_nil⟩
  | true =>
    obtain ⟨more, hm, follows⟩ :=
      exchange_follows provider request.url redirectLimit request sent
    rw [send, if_pos h]
    exact ⟨request :: more, hm, List.forall_mem_cons.mpr ⟨.inl ⟨rfl, rfl⟩, follows.hands⟩⟩

/-- A request that can be sent is the first one sent. -/
theorem send_first (provider : Provider) {request : Request} (h : isSendable request.url = true)
    (sent : List Request) :
    ∃ more, (send provider request sent).sent = sent ++ request :: more := by
  obtain ⟨more, hm, _⟩ := exchange_follows provider request.url redirectLimit request sent
  rw [send, if_pos h]
  exact ⟨more, hm⟩

/-- What is sent for a request: nothing when no request can go to its address, else that request and
whatever answers lead to. -/
inductive Tried (provider : Provider) (before : List Request) (first : Request) :
    List Request → Prop where
  /-- It cannot be sent. -/
  | kept (unsendable : isSendable first.url = false) : Tried provider before first before
  /-- It is sent, and only what follows it is sent after it. -/
  | once {more : List Request} (sendable : isSendable first.url = true)
    (later : Follows provider before first more) :
    Tried provider before first (before ++ first :: more)

/-- A request is tried when it is sent. -/
theorem tried_send (provider : Provider) (first : Request) (sent : List Request) :
    Tried provider sent first (send provider first sent).sent := by
  cases h : isSendable first.url with
  | false =>
    rw [send_unsendable provider h]
    exact .kept h
  | true =>
    obtain ⟨more, hm, later⟩ := exchange_follows provider first.url redirectLimit first sent
    rw [send, if_pos h, hm]
    exact .once h later

/-- To a provider that keeps silent a request is sent alone, if it can be sent. -/
theorem Tried.of_silent {provider : Provider} {before after : List Request} {first : Request}
    (tried : Tried provider before first after) (silent : ∀ sent, provider sent = .silent)
    (sendable : isSendable first.url = true) : after = before ++ [first] := by
  cases tried with
  | kept unsendable =>
    rw [sendable] at unsendable
    cases unsendable
  | once _ later =>
    cases later with
    | done => rfl
    | next answered =>
      rw [silent] at answered
      cases answered

/-- An answer that stands is what an exchange comes to. -/
theorem send_answered {provider : Provider} {request : Request} {sent : List Request}
    {answer : Answer} (h : isSendable request.url = true)
    (ha : provider (sent ++ [request]) = .answered answer)
    (stands : lead request answer = .stays) :
    send provider request sent = ⟨.ok answer, sent ++ [request]⟩ := by
  rw [send, if_pos h, exchange]
  simp only [ha, stands]

/-- Where a status does not say to ask elsewhere, the answer stands. -/
theorem lead_of_unfollowed {request : Request} {answer : Answer}
    (h : isFollowed request answer.status = false) : lead request answer = .stays := by
  rw [lead, h]
  rfl

/-- An answer of success stands. -/
theorem lead_of_success (request : Request) {answer : Answer}
    (h : isSuccess answer.status = true) : lead request answer = .stays := by
  have hn : [301, 302, 303, 307, 308].contains answer.status = false := by
    simp only [isSuccess, Bool.and_eq_true, decide_eq_true_eq] at h
    simp only [List.contains_eq_mem, decide_eq_false_iff_not, List.mem_cons, List.not_mem_nil,
      or_false]
    omega
  refine lead_of_unfollowed ?_
  rw [isFollowed, hn, Bool.false_and]

end MediaGateway.Http
