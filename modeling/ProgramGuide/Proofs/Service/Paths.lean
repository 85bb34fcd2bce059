import ProgramGuide.Proofs.Service.Play
import ProgramGuide.Service.Transport

/-!
# Paths

The ways in which a caller who is alone gets a token and sends a request, each with what
happens on it, its outcome and the store it leaves.
-/

namespace ProgramGuide

namespace TokenReply

theorem granted_eq_ok_iff {reply : TokenReply} {token : String} :
    reply.granted = .ok token ↔
      reply.message = some "OK" ∧ reply.token = some token ∧ token ≠ "" := by
  obtain ⟨message, value⟩ := reply
  unfold granted
  dsimp only
  split
  next held =>
    split
    next hempty =>
      constructor
      · intro h
        cases h
      · rintro ⟨-, h, hne⟩
        cases h
        exact absurd (String.isEmpty_iff.mp hempty) hne
    next hempty =>
      rw [String.isEmpty_iff] at hempty
      constructor
      · intro h
        cases h
        exact ⟨rfl, rfl, hempty⟩
      · rintro ⟨-, h, -⟩
        rw [Option.some.inj h]
  next h =>
    constructor
    · intro h
      cases h
    · rintro ⟨rfl, rfl, -⟩
      exact absurd rfl (h _ rfl)

theorem granted_ne_cancelled (reply : TokenReply) : reply.granted ≠ .error .cancelled := by
  unfold granted
  split
  · split <;> simp
  · simp

end TokenReply

namespace Tokens

def verdict : Except Failure Response → Except Failure String
  | .error failure => .error failure
  | .ok response =>
      if response.isSuccess then do
        let reply ← response.decode "token" TokenReply.ofJson?
        reply.granted
      else .error response.failure

theorem verdict_eq_ok_iff {answer : Except Failure Response} {token : String} :
    verdict answer = .ok token ↔
      ∃ response reply, answer = .ok response ∧ response.isSuccess = true ∧
        response.decode "token" TokenReply.ofJson? = .ok reply ∧
        reply.message = some "OK" ∧ reply.token = some token ∧ token ≠ "" := by
  constructor
  · intro h
    cases answer with
    | error failure => cases h
    | ok response =>
        unfold verdict at h
        dsimp only at h
        split at h
        next hsuccess =>
          cases hreply : response.decode "token" TokenReply.ofJson? with
          | error failure =>
              rw [hreply] at h
              cases h
          | ok reply =>
              rw [hreply] at h
              exact ⟨response, reply, rfl, hsuccess, hreply,
                TokenReply.granted_eq_ok_iff.mp h⟩
        next => cases h
  · rintro ⟨response, reply, rfl, hsuccess, hreply, hgranted⟩
    unfold verdict
    dsimp only
    rw [if_pos hsuccess, hreply]
    exact TokenReply.granted_eq_ok_iff.mpr hgranted

/-- A failure to get a token as the caller is told of it. -/
def reported (c : Credentials) (failure : Failure) : Failure :=
  if failure.isRejection then .authentication (.rejected c.username) else failure

inductive Current (policy : TokenPolicy) (username : String) (store : TokenStore) :
    List Event → Option String → Prop
  | absent (h : store.get? username = none) : Current policy username store [] none
  | stale {token now} (hget : store.get? username = some token)
      (h : TokenStore.isFresh policy token now = false) :
      Current policy username store [.read now] none
  | fresh {token now} (hget : store.get? username = some token)
      (h : TokenStore.isFresh policy token now = true) :
      Current policy username store [.read now] (some token.value)

inductive Cooling (policy : TokenPolicy) (store : TokenStore) : List Event → Bool → Prop
  | never (h : store.lastRejection = none) : Cooling policy store [] false
  | since {since} (now) (h : store.lastRejection = some since) :
      Cooling policy store [.read now] (TokenStore.coolingDown policy since now)

inductive Looked (policy : TokenPolicy) (c : Credentials) (store : TokenStore) :
    List Event → Option (Option String) → Prop
  | cached {events token} (h : Current policy c.username store events (some token)) :
      Looked policy c store events (some (some token))
  | cooling {first rest} (h : Current policy c.username store first none)
      (h' : Cooling policy store rest true) :
      Looked policy c store (first ++ rest) (some none)
  | unsettled {first rest} (h : Current policy c.username store first none)
      (h' : Cooling policy store rest false) :
      Looked policy c store (first ++ rest) none

inductive Refreshed (c : Credentials) (store : TokenStore) :
    List Event → Except Failure String → TokenStore → Prop
  | granted {answer token} (now) (h : verdict answer = .ok token) :
      Refreshed c store [.exchange (request c) true answer, .read now] (.ok token)
        (store.insert c.username ⟨token, now⟩)
  | rejected {answer failure} (now) (h : verdict answer = .error failure)
      (hrejection : failure.isRejection = true) :
      Refreshed c store [.exchange (request c) true answer, .read now]
        (.error (.authentication (.rejected c.username))) (store.clear.reject now)
  | failed {sent answer failure} (h : verdict answer = .error failure)
      (hrejection : failure.isRejection = false)
      (hsent : sent = false → answer = .error .cancelled) :
      Refreshed c store [.exchange (request c) sent answer] (.error failure) store

inductive Acquired (policy : TokenPolicy) (c : Credentials) (store : TokenStore) :
    List Event → Except Failure (Option String) → TokenStore → Prop
  | incomplete (h : c.isComplete = false) : Acquired policy c store [] (.ok none) store
  | settled {events settled} (h : c.isComplete = true)
      (hlook : Looked policy c store events (some settled)) :
      Acquired policy c store events (.ok settled) store
  | abandoned {events} (h : c.isComplete = true)
      (hlook : Looked policy c store events none) :
      Acquired policy c store (events ++ [.wait false]) (.error .cancelled) store
  | settledLate {first second settled} (h : c.isComplete = true)
      (hlook : Looked policy c store first none)
      (hlook' : Looked policy c store second (some settled)) :
      Acquired policy c store (first ++ .wait true :: second) (.ok settled) store
  | refreshed {first second rest token store'} (h : c.isComplete = true)
      (hlook : Looked policy c store first none)
      (hlook' : Looked policy c store second none)
      (hrefresh : Refreshed c store rest token store') :
      Acquired policy c store (first ++ .wait true :: (second ++ rest)) (token.map some)
        store'

end Tokens

namespace Transport

inductive Renewed (policy : TokenPolicy) (c : Credentials) (request : Request)
    (store : TokenStore) : List Event → Request → Prop
  | tokenless (h : request.token = none) : Renewed policy c request store [] request
  | same {events} (h : request.token.isSome = true)
      (hcurrent : Tokens.Current policy c.username store events none) :
      Renewed policy c request store events request
  | renewed {events token} (h : request.token.isSome = true)
      (hcurrent : Tokens.Current policy c.username store events (some token)) :
      Renewed policy c request store events (request.withToken token)

def judged : Except Failure Response → Except Failure Response
  | .error failure => .error failure
  | .ok response => if response.isSuccess then .ok response else .error response.failure

theorem judged_eq_ok_iff {answer : Except Failure Response} {response : Response} :
    judged answer = .ok response ↔
      answer = .ok response ∧ 200 ≤ response.status ∧ response.status < 300 := by
  cases answer with
  | error failure => simp [judged]
  | ok other =>
      simp only [judged, Response.isSuccess, Status.isSuccess, Bool.and_eq_true,
        decide_eq_true_eq]
      by_cases hsuccess : 200 ≤ other.status ∧ other.status < 300
      · rw [if_pos hsuccess]
        constructor
        · rintro ⟨⟩
          exact ⟨rfl, hsuccess⟩
        · rintro ⟨⟨⟩, -⟩
          rfl
      · rw [if_neg hsuccess]
        constructor
        · rintro ⟨⟩
        · rintro ⟨⟨⟩, h⟩
          exact absurd h hsuccess

/-- Whether an answer calls for a second attempt. -/
def mayRetry (retryAllowed : Bool) (response : Response) : Bool :=
  !response.isSuccess && retryAllowed && response.status < 500

inductive Sent (policy : TokenPolicy) (retryAllowed : Bool) (c : Credentials)
    (request : Request) (store : TokenStore) :
    List Event → Except Failure Response → TokenStore → Prop
  | broken {events renewed sent failure}
      (h : Renewed policy c request store events renewed)
      (hsent : sent = false → failure = .cancelled) :
      Sent policy retryAllowed c request store
        (events ++ [.exchange renewed sent (.error failure)]) (.error failure) store
  | final {events renewed response} (h : Renewed policy c request store events renewed)
      (hretry : mayRetry retryAllowed response = false) :
      Sent policy retryAllowed c request store
        (events ++ [.exchange renewed true (.ok response)]) (judged (.ok response)) store
  | tokenFailed {events renewed response rest failure store'}
      (h : Renewed policy c request store events renewed)
      (hretry : mayRetry retryAllowed response = true)
      (hacquire : Tokens.Acquired policy c store.clear rest (.error failure) store') :
      Sent policy retryAllowed c request store
        (events ++ .exchange renewed true (.ok response) :: rest) (.error failure) store'
  | tokenless {events renewed response rest store'}
      (h : Renewed policy c request store events renewed)
      (hretry : mayRetry retryAllowed response = true)
      (hacquire : Tokens.Acquired policy c store.clear rest (.ok none) store') :
      Sent policy retryAllowed c request store
        (events ++ .exchange renewed true (.ok response) :: rest)
        (.error response.failure) store'
  | retried {events renewed response rest token sent answer store'}
      (h : Renewed policy c request store events renewed)
      (hretry : mayRetry retryAllowed response = true)
      (hacquire : Tokens.Acquired policy c store.clear rest (.ok (some token)) store')
      (hsent : sent = false → answer = .error .cancelled) :
      Sent policy retryAllowed c request store
        (events ++ .exchange renewed true (.ok response) ::
          (rest ++ [.exchange (renewed.withToken token) sent answer]))
        (judged answer) store'

end Transport

/-! ## Every run is on one of the paths -/

namespace Tokens

open Operation

variable {policy : TokenPolicy} {c : Credentials} {username : String}
variable {store store' : TokenStore} {events : List Event}

theorem current_path {result : Except Failure (Option String)}
    (h : (current policy username).Runs store events result store') :
    ∃ token, result = .ok token ∧ Current policy username store events token ∧
      store' = store := by
  unfold current at h
  rw [runs_store_bind] at h
  cases hget : store.get? username with
  | none =>
      rw [hget] at h
      rw [runs_pure] at h
      obtain ⟨rfl, rfl, rfl⟩ := h
      exact ⟨none, rfl, .absent hget, rfl⟩
  | some token =>
      rw [hget] at h
      rw [runs_now_bind] at h
      obtain ⟨now, rest, rfl, h⟩ := h
      rw [runs_pure] at h
      obtain ⟨rfl, rfl, rfl⟩ := h
      refine ⟨_, rfl, ?_, rfl⟩
      cases hfresh : TokenStore.isFresh policy token now with
      | true => exact .fresh hget hfresh
      | false => exact .stale hget hfresh

theorem inCooldown_path {result : Except Failure Bool}
    (h : (inCooldown policy).Runs store events result store') :
    ∃ cooling, result = .ok cooling ∧ Cooling policy store events cooling ∧
      store' = store := by
  unfold inCooldown at h
  rw [runs_store_bind] at h
  cases hlast : store.lastRejection with
  | none =>
      rw [hlast] at h
      rw [runs_pure] at h
      obtain ⟨rfl, rfl, rfl⟩ := h
      exact ⟨false, rfl, .never hlast, rfl⟩
  | some since =>
      rw [hlast] at h
      rw [runs_now_bind] at h
      obtain ⟨now, rest, rfl, h⟩ := h
      rw [runs_pure] at h
      obtain ⟨rfl, rfl, rfl⟩ := h
      exact ⟨_, rfl, .since now hlast, rfl⟩

theorem look_path {result : Except Failure (Option (Option String))}
    (h : (look policy c).Runs store events result store') :
    ∃ settled, result = .ok settled ∧ Looked policy c store events settled ∧
      store' = store := by
  unfold look at h
  replace h := runs_bind_of_ok current_path h
  obtain ⟨first, rest, token, rfl, hcurrent, h⟩ := h
  cases token with
  | some token =>
      rw [runs_pure] at h
      obtain ⟨rfl, rfl, rfl⟩ := h
      rw [List.append_nil]
      exact ⟨_, rfl, .cached hcurrent, rfl⟩
  | none =>
      replace h := runs_bind_of_ok inCooldown_path h
      obtain ⟨second, rest, cooling, rfl, hcooling, h⟩ := h
      rw [runs_pure] at h
      obtain ⟨rfl, rfl, rfl⟩ := h
      rw [List.append_nil]
      refine ⟨_, rfl, ?_, rfl⟩
      cases cooling with
      | true => exact .cooling hcurrent hcooling
      | false => exact .unsettled hcurrent hcooling

theorem authenticate_path {result : Except Failure String}
    (h : (authenticate c).Runs store events result store') :
    ∃ sent answer, events = [.exchange (request c) sent answer] ∧
      result = verdict answer ∧ (sent = false → answer = .error .cancelled) ∧
      store' = store := by
  unfold authenticate at h
  rw [runs_exchange_bind] at h
  obtain ⟨sent, failure, rfl, hsent, rfl, rfl⟩ | ⟨response, rest, rfl, h⟩ := h
  · exact ⟨sent, _, rfl, rfl, fun h => by rw [hsent h], rfl⟩
  · refine ⟨true, .ok response, ?_⟩
    unfold verdict
    dsimp only
    split at h
    next hsuccess =>
      rw [if_pos hsuccess]
      rw [runs_ofExcept_bind] at h
      obtain ⟨failure, hdecode, rfl, rfl, rfl⟩ | ⟨reply, hdecode, h⟩ := h
      · rw [hdecode]
        exact ⟨rfl, rfl, by simp, rfl⟩
      · rw [runs_ofExcept] at h
        obtain ⟨rfl, rfl, rfl⟩ := h
        rw [hdecode]
        exact ⟨rfl, rfl, by simp, rfl⟩
    next hsuccess =>
      rw [if_neg hsuccess]
      rw [runs_throw] at h
      obtain ⟨rfl, rfl, rfl⟩ := h
      exact ⟨rfl, rfl, by simp, rfl⟩

theorem refresh_path {result : Except Failure String}
    (h : (refresh c).Runs store events result store') :
    Refreshed c store events result store' := by
  unfold refresh at h
  rw [runs_outcome_bind] at h
  obtain ⟨first, rest, token, store₁, rfl, hauthenticate, h⟩ := h
  obtain ⟨sent, answer, rfl, hverdict, hsent, rfl⟩ := authenticate_path hauthenticate
  have hanswer (hcancelled : ∀ failure, verdict answer = .error failure →
      failure ≠ .cancelled) : sent = true := by
    cases sent with
    | true => rfl
    | false => exact absurd rfl (hcancelled .cancelled (by rw [hsent rfl]; rfl))
  cases token with
  | ok token =>
      rw [runs_now_bind] at h
      obtain ⟨now, rest, rfl, h⟩ := h
      rw [runs_amend_bind] at h
      rw [runs_pure] at h
      obtain ⟨rfl, rfl, rfl⟩ := h
      obtain rfl := hanswer (by rw [← hverdict]; simp)
      exact .granted now hverdict.symm
  | error failure =>
      dsimp only at h
      split at h
      next hrejection =>
        rw [runs_amend_bind] at h
        rw [runs_now_bind] at h
        obtain ⟨now, rest, rfl, h⟩ := h
        rw [runs_amend_bind] at h
        rw [runs_throw] at h
        obtain ⟨rfl, rfl, rfl⟩ := h
        obtain rfl := hanswer (by rw [← hverdict]; rintro _ ⟨⟩ rfl; cases hrejection)
        exact .rejected now hverdict.symm hrejection
      next hrejection =>
        rw [runs_throw] at h
        obtain ⟨rfl, rfl, rfl⟩ := h
        exact .failed hverdict.symm (by simpa using hrejection) hsent

theorem acquire_path {result : Except Failure (Option String)}
    (h : (acquire policy c).Runs store events result store') :
    Acquired policy c store events result store' := by
  unfold acquire at h
  split at h
  next hincomplete =>
    rw [runs_pure] at h
    obtain ⟨rfl, rfl, rfl⟩ := h
    exact .incomplete (by simpa using hincomplete)
  next hcomplete =>
    have hcomplete : c.isComplete = true := by simpa using hcomplete
    replace h := runs_bind_of_ok look_path h
    obtain ⟨first, rest, settled, rfl, hlook, h⟩ := h
    cases settled with
    | some settled =>
        rw [runs_pure] at h
        obtain ⟨rfl, rfl, rfl⟩ := h
        rw [List.append_nil]
        exact .settled hcomplete hlook
    | none =>
        rw [runs_locked] at h
        obtain ⟨rfl, rfl, rfl⟩ | ⟨rest, rfl, h⟩ := h
        · exact .abandoned hcomplete hlook
        · replace h := runs_bind_of_ok look_path h
          obtain ⟨second, rest, settled, rfl, hlook', h⟩ := h
          cases settled with
          | some settled =>
              rw [runs_pure] at h
              obtain ⟨rfl, rfl, rfl⟩ := h
              rw [List.append_nil]
              exact .settledLate hcomplete hlook hlook'
          | none =>
              rw [runs_bind] at h
              obtain ⟨failure, h, rfl⟩ | ⟨third, rest, token, store₃, rfl, hrefresh, h⟩ := h
              · exact .refreshed hcomplete hlook hlook' (refresh_path h)
              · rw [runs_pure] at h
                obtain ⟨rfl, rfl, rfl⟩ := h
                rw [List.append_nil]
                exact .refreshed hcomplete hlook hlook' (refresh_path hrefresh)

end Tokens

namespace Transport

open Operation

variable {policy : TokenPolicy} {c : Credentials} {retryAllowed : Bool} {request : Request}
variable {store store' : TokenStore} {events : List Event}

theorem refreshed_path {result : Except Failure Request}
    (h : (refreshed policy c request).Runs store events result store') :
    ∃ renewed, result = .ok renewed ∧ Renewed policy c request store events renewed ∧
      store' = store := by
  unfold refreshed at h
  split at h
  next htoken =>
    replace h := runs_bind_of_ok Tokens.current_path h
    obtain ⟨first, rest, token, rfl, hcurrent, h⟩ := h
    cases token with
    | none =>
        rw [runs_pure] at h
        obtain ⟨rfl, rfl, rfl⟩ := h
        rw [List.append_nil]
        exact ⟨request, rfl, .same htoken hcurrent, rfl⟩
    | some token =>
        rw [runs_pure] at h
        obtain ⟨rfl, rfl, rfl⟩ := h
        rw [List.append_nil]
        exact ⟨_, rfl, .renewed htoken hcurrent, rfl⟩
  next htoken =>
    rw [runs_pure] at h
    obtain ⟨rfl, rfl, rfl⟩ := h
    exact ⟨request, rfl, .tokenless (by simpa using htoken), rfl⟩

theorem attempt_path {result : Except Failure Response}
    (h : (attempt request).Runs store events result store') :
    ∃ sent answer, events = [.exchange request sent answer] ∧ result = judged answer ∧
      (sent = false → answer = .error .cancelled) ∧ store' = store := by
  unfold attempt at h
  rw [runs_exchange_bind] at h
  obtain ⟨sent, failure, rfl, hsent, rfl, rfl⟩ | ⟨response, rest, rfl, h⟩ := h
  · exact ⟨sent, _, rfl, rfl, fun h => by rw [hsent h], rfl⟩
  · refine ⟨true, .ok response, ?_⟩
    unfold judged
    dsimp only
    split at h
    next hsuccess =>
      rw [runs_pure] at h
      obtain ⟨rfl, rfl, rfl⟩ := h
      rw [if_pos hsuccess]
      exact ⟨rfl, rfl, by simp, rfl⟩
    next hsuccess =>
      rw [runs_throw] at h
      obtain ⟨rfl, rfl, rfl⟩ := h
      rw [if_neg hsuccess]
      exact ⟨rfl, rfl, by simp, rfl⟩

theorem send_path {result : Except Failure Response}
    (h : (send policy retryAllowed c request).Runs store events result store') :
    Sent policy retryAllowed c request store events result store' := by
  unfold send at h
  replace h := runs_bind_of_ok refreshed_path h
  obtain ⟨first, rest, renewed, rfl, hrenewed, h⟩ := h
  rw [runs_exchange_bind] at h
  obtain ⟨sent, failure, rfl, hsent, rfl, rfl⟩ | ⟨response, rest, rfl, h⟩ := h
  · exact .broken hrenewed hsent
  · split at h
    next hsuccess =>
      rw [runs_pure] at h
      obtain ⟨rfl, rfl, rfl⟩ := h
      have hretry : mayRetry retryAllowed response = false := by simp [mayRetry, hsuccess]
      have hfinal := Sent.final hrenewed hretry
      rw [judged, if_pos hsuccess] at hfinal
      exact hfinal
    next hsuccess =>
      split at h
      next hretry =>
        rw [runs_throw] at h
        obtain ⟨rfl, rfl, rfl⟩ := h
        have hretry : mayRetry retryAllowed response = false := by
          cases retryAllowed with
          | false => simp [mayRetry]
          | true => simpa [mayRetry, hsuccess] using hretry
        have hfinal := Sent.final hrenewed hretry
        rw [judged, if_neg hsuccess] at hfinal
        exact hfinal
      next hretry =>
        have hretry : mayRetry retryAllowed response = true := by
          simpa [mayRetry, hsuccess] using hretry
        rw [runs_amend_bind] at h
        rw [runs_bind] at h
        obtain ⟨failure, h, rfl⟩ | ⟨second, rest, token, store₂, rfl, hacquire, h⟩ := h
        · exact .tokenFailed hrenewed hretry (Tokens.acquire_path h)
        · have hacquire := Tokens.acquire_path hacquire
          cases token with
          | none =>
              rw [runs_throw] at h
              obtain ⟨rfl, rfl, rfl⟩ := h
              rw [List.append_nil]
              exact .tokenless hrenewed hretry hacquire
          | some token =>
              obtain ⟨sent, answer, rfl, rfl, hsent, rfl⟩ := attempt_path h
              exact .retried hrenewed hretry hacquire hsent

end Transport

end ProgramGuide
