import ProgramGuide.Proofs.Service.Round

/-!
# Two attempts

A request is tried at most twice.  When nobody cancels and nobody else is at work, the two
attempts and the acquisition of a token between them decide the result and the store.
-/

namespace ProgramGuide

def Exchange.event (exchange : Exchange) : Event :=
  .exchange exchange.request true exchange.answer

/-- The token of the user, if there is one that is fresh at the time. -/
def Tokens.fresh? (policy : TokenPolicy) (store : TokenStore) (username : String)
    (now : Instant) : Option String :=
  ((store.get? username).filter fun token => TokenStore.isFresh policy token now).map (·.value)

/-- A send taken apart: the readings of the clock before the first attempt, that attempt,
the acquisition of another token from an emptied store, and the second attempt. -/
structure Dispatch where
  readings : List Event
  first : Exchange
  renewal : Played (Except Failure (Option String))
  second : Option Exchange

namespace Dispatch

def last (d : Dispatch) : Exchange := d.second.getD d.first

/-- The first attempt has met a client error, and another one is allowed. -/
def Rebuffed (d : Dispatch) (retryAllowed : Bool) : Prop :=
  retryAllowed = true ∧ d.first.Refused

/-- How a send ends, with its result, the store that it leaves and what happens on it. -/
inductive Ends (retryAllowed : Bool) (store : TokenStore) :
    Dispatch → Played (Except Failure Response) → Prop
  | atOnce {readings first renewal}
      (h : ¬Rebuffed ⟨readings, first, renewal, none⟩ retryAllowed) :
      Ends retryAllowed store ⟨readings, first, renewal, none⟩
        ⟨Transport.judged first.answer, store, readings ++ [first.event]⟩
  | failed {readings first renewal failure}
      (h : Rebuffed ⟨readings, first, renewal, none⟩ retryAllowed)
      (hrenewal : renewal.result = .error failure) :
      Ends retryAllowed store ⟨readings, first, renewal, none⟩
        ⟨.error failure, renewal.store, readings ++ first.event :: renewal.events⟩
  | tokenless {readings request response renewal}
      (h : Rebuffed ⟨readings, ⟨request, .ok response⟩, renewal, none⟩ retryAllowed)
      (hrenewal : renewal.result = .ok none) :
      Ends retryAllowed store ⟨readings, ⟨request, .ok response⟩, renewal, none⟩
        ⟨.error response.failure, renewal.store,
          readings ++ .exchange request true (.ok response) :: renewal.events⟩
  | repeated {readings first renewal token answer}
      (h : Rebuffed ⟨readings, first, renewal, none⟩ retryAllowed)
      (hrenewal : renewal.result = .ok (some token)) :
      Ends retryAllowed store
        ⟨readings, first, renewal, some ⟨first.request.withToken token, answer⟩⟩
        ⟨Transport.judged answer, renewal.store, readings ++ first.event ::
          (renewal.events ++ [.exchange (first.request.withToken token) true answer])⟩

end Dispatch

/-! ## Plays of the parts -/

namespace Operation

open Stage

variable {store : TokenStore} {o : Outside}

theorem play_pure (a : α) : (pure a : Operation α).play store o = ⟨.ok a, store, []⟩ := rfl

theorem play_throw (failure : Failure) :
    (throw failure : Operation α).play store o = ⟨.error failure, store, []⟩ :=
  rfl

theorem play_store_bind (f : TokenStore → Operation α) :
    (Operation.store >>= f).play store o = (f store).play store o :=
  rfl

theorem play_now_bind (f : Instant → Operation α) :
    (now >>= f).play store o =
      ((f (o 0).now).play store (o.after 1)).prepend (.read (o 0).now) :=
  rfl

theorem play_amend_bind (change : TokenStore → TokenStore) (f : Unit → Operation α) :
    (amend change >>= f).play store o = (f ()).play (change store) o :=
  rfl

theorem play_exchange (request : Request) (h : (o 0).cancelled = false) :
    (exchange request).play store o =
      ⟨(o 0).answer, store, [.exchange request true (o 0).answer]⟩ := by
  simp [exchange, ofTask, play, ExceptT.run, ExceptT.mk, Task.play, h, Played.prepend]

theorem not_cancelled_of_exchange {request : Request} {f : Response → Operation α}
    (h : Uncancelled ((exchange request >>= f).play store o).events) :
    (o 0).cancelled = false := by
  obtain ⟨rest, hevents⟩ := play_bind_events (exchange request) f store o
  rw [hevents] at h
  cases hcancelled : (o 0).cancelled with
  | false => rfl
  | true =>
      have hfirst : ((exchange request).play store o).events =
          [.exchange request false (.error .cancelled)] := by
        simp [exchange, ofTask, play, ExceptT.run, ExceptT.mk, Task.play, hcancelled]
      rw [hfirst] at h
      cases (uncancelled_append.mp h).1 _ (List.mem_singleton_self _)

theorem play_exchange_bind (request : Request) (f : Response → Operation α)
    (h : (o 0).cancelled = false) :
    (exchange request >>= f).play store o =
      match (o 0).answer with
      | .error failure => ⟨.error failure, store, [.exchange request true (.error failure)]⟩
      | .ok response => ((f response).play store (o.after 1)).prepend
          (.exchange request true (.ok response)) := by
  rw [play_bind, play_exchange request h]
  cases (o 0).answer <;> rfl

end Operation

namespace Transport

open Operation Stage

variable {policy : TokenPolicy} {retryAllowed : Bool} {c : Credentials} {request : Request}
variable {store : TokenStore} {o : Outside}

/-- The request as it is first attempted. -/
def carrying (policy : TokenPolicy) (c : Credentials) (store : TokenStore) (now : Instant)
    (request : Request) : Request :=
  match request.token with
  | none => request
  | some own => request.withToken ((Tokens.fresh? policy store c.username now).getD own)

theorem play_current (policy : TokenPolicy) (username : String) (store : TokenStore)
    (o : Outside) :
    ∃ readings, Reads readings ∧ (Tokens.current policy username).play store o =
      ⟨.ok (Tokens.fresh? policy store username (o 0).now), store, readings⟩ := by
  unfold Tokens.current Tokens.fresh?
  rw [play_store_bind]
  cases store.get? username with
  | none => exact ⟨[], by simp [Reads], rfl⟩
  | some token =>
      refine ⟨[.read (o 0).now], by simp [Reads], ?_⟩
      rw [play_now_bind, play_pure]
      cases hfresh : TokenStore.isFresh policy token (o 0).now <;>
        simp [Option.filter, hfresh, Played.prepend]

theorem play_refreshed (policy : TokenPolicy) (c : Credentials) (request : Request)
    (store : TokenStore) (o : Outside) :
    ∃ readings, Reads readings ∧ (refreshed policy c request).play store o =
      ⟨.ok (carrying policy c store (o 0).now request), store, readings⟩ := by
  unfold refreshed carrying
  cases htoken : request.token with
  | none => exact ⟨[], by simp [Reads], rfl⟩
  | some own =>
      have hown : request.withToken own = request := by
        rw [Request.withToken, ← htoken]
      obtain ⟨readings, hreads, hcurrent⟩ := play_current policy c.username store o
      refine ⟨readings, hreads, ?_⟩
      simp only [Option.isSome_some, if_true]
      rw [play_bind, hcurrent]
      dsimp only
      cases Tokens.fresh? policy store c.username (o 0).now with
      | none =>
          -- Without a fresh token the request keeps the one that it came with.
          rw [Option.getD_none, hown]
          exact congrArg (Played.mk _ _) (List.append_nil readings)
      | some token => exact congrArg (Played.mk _ _) (List.append_nil readings)

theorem play_attempt (request : Request) (h : (o 0).cancelled = false) :
    (attempt request).play store o =
      ⟨judged (o 0).answer, store, [.exchange request true (o 0).answer]⟩ := by
  unfold attempt
  rw [play_exchange_bind _ _ h]
  cases (o 0).answer with
  | error failure => rfl
  | ok response =>
      dsimp only [judged]
      split <;> rfl

/-- What a sender does about the response to the first attempt. -/
def answered (policy : TokenPolicy) (retryAllowed : Bool) (c : Credentials)
    (first : Request) (response : Response) : Operation Response :=
  if mayRetry retryAllowed response then do
    Operation.amend TokenStore.clear
    match ← Tokens.acquire policy c with
    | some token => attempt (first.withToken token)
    | none => throw response.failure
  else Operation.ofExcept (judged (.ok response))

theorem send_eq :
    send policy retryAllowed c request =
      refreshed policy c request >>= fun first =>
        Operation.exchange first >>= answered policy retryAllowed c first := by
  unfold send
  congr
  funext first
  congr
  funext response
  unfold answered mayRetry judged
  cases hsuccess : response.isSuccess with
  | true =>
      simp only [hsuccess]
      rfl
  | false =>
      simp only [hsuccess]
      cases retryAllowed with
      | false => rfl
      | true =>
          by_cases hstatus : response.status < 500
          · rw [decide_eq_true hstatus, decide_eq_false (Nat.not_le.mpr hstatus)]
            rfl
          · rw [decide_eq_false hstatus, decide_eq_true (Nat.not_lt.mp hstatus)]
            rfl

variable {first : Request} {response : Response}

theorem rebuffed_of_mayRetry {d : Dispatch} (hfirst : d.first = ⟨first, .ok response⟩) :
    d.Rebuffed retryAllowed ↔ mayRetry retryAllowed response = true := by
  simp [Dispatch.Rebuffed, Exchange.Refused, hfirst, mayRetry, and_left_comm, and_assoc]

theorem ends_of_answered (readings : List Event)
    {renewal : Played (Except Failure (Option String))}
    (hrenewal : (Tokens.acquire policy c).play store.clear o = renewal)
    (h : Uncancelled ((answered policy retryAllowed c first response).play store o).events) :
    ∃ second, Dispatch.Ends retryAllowed store
      ⟨readings, ⟨first, .ok response⟩, renewal, second⟩
      (let rest := (answered policy retryAllowed c first response).play store o
      ⟨rest.result, rest.store,
        readings ++ .exchange first true (.ok response) :: rest.events⟩) := by
  unfold answered at h ⊢
  cases hretry : mayRetry retryAllowed response with
  | false =>
      refine ⟨none, .atOnce ?_⟩
      rw [rebuffed_of_mayRetry rfl, hretry]
      simp
  | true =>
      have hrebuffed : Dispatch.Rebuffed ⟨readings, ⟨first, .ok response⟩, renewal, none⟩
          retryAllowed := (rebuffed_of_mayRetry rfl).mpr hretry
      rw [hretry, if_pos rfl, play_amend_bind, play_bind, hrenewal] at h
      rw [if_pos rfl, play_amend_bind, play_bind, hrenewal]
      cases hresult : renewal.result with
      | error failure =>
          simp only [hresult]
          exact ⟨none, .failed hrebuffed hresult⟩
      | ok token =>
          simp only [hresult] at h ⊢
          cases token with
          | none =>
              rw [play_throw, List.append_nil]
              exact ⟨none, .tokenless hrebuffed hresult⟩
          | some token =>
              dsimp only at h ⊢
              obtain ⟨-, h⟩ := uncancelled_append.mp h
              rw [play_attempt _ (not_cancelled_of_exchange h)]
              exact ⟨_, .repeated hrebuffed hresult⟩

/-- A send that nobody cancels can be taken apart. -/
theorem ends_of_play
    (h : Uncancelled ((send policy retryAllowed c request).play store o).events) :
    ∃ d : Dispatch, Reads d.readings ∧
      d.first.request = carrying policy c store (o 0).now request ∧
      d.renewal = (Tokens.acquire policy c).play store.clear (o.after (d.readings.length + 1)) ∧
      d.Ends retryAllowed store ((send policy retryAllowed c request).play store o) := by
  obtain ⟨readings, hreads, hrefreshed⟩ := play_refreshed policy c request store o
  rw [send_eq, play_bind, hrefreshed] at h ⊢
  dsimp only at h ⊢
  generalize carrying policy c store (o 0).now request = first at h ⊢
  obtain ⟨-, h⟩ := uncancelled_append.mp h
  have hsent := not_cancelled_of_exchange h
  have hafter : (o.after readings.length).after 1 = o.after (readings.length + 1) := by
    rw [Outside.after_after, Nat.add_comm]
  generalize hrenewal : (Tokens.acquire policy c).play store.clear
    (o.after (readings.length + 1)) = renewal
  rw [play_exchange_bind _ _ hsent, hafter] at h ⊢
  cases hanswer : (o.after readings.length 0).answer with
  | error failure =>
      refine ⟨⟨readings, ⟨first, .error failure⟩, renewal, none⟩, hreads, rfl, hrenewal.symm,
        .atOnce ?_⟩
      rintro ⟨-, response, hresponse, -⟩
      cases hresponse
  | ok response =>
      rw [hanswer] at h
      have hrest := (uncancelled_cons.mp h).2
      obtain ⟨second, hends⟩ := ends_of_answered readings hrenewal hrest
      exact ⟨⟨readings, ⟨first, .ok response⟩, renewal, second⟩, hreads, rfl, hrenewal.symm,
        hends⟩

end Transport

/-! ## The rules -/

namespace Dispatch

open Transport

/-- The rules of a send of a request, with what comes of it. -/
structure Lawful (policy : TokenPolicy) (retryAllowed : Bool) (c : Credentials)
    (request : Request) (store : TokenStore) (o : Outside) (d : Dispatch)
    (p : Played (Except Failure Response)) : Prop where
  readings : Stage.Reads d.readings
  first_of_tokenless : request.token = none → d.first.request = request
  first_of_token : ∀ own, request.token = some own → d.first.request =
    request.withToken ((Tokens.fresh? policy store c.username (o 0).now).getD own)
  renewal : d.renewal =
    (Tokens.acquire policy c).play store.clear (o.after (d.readings.length + 1))
  second_iff : d.second.isSome = true ↔
    d.Rebuffed retryAllowed ∧ ∃ token, d.renewal.result = .ok (some token)
  second_request : ∀ second, d.second = some second → ∀ token,
    d.renewal.result = .ok (some token) → second.request = d.first.request.withToken token
  ok_iff : ∀ response, p.result = .ok response ↔
    d.last.answer = .ok response ∧ 200 ≤ response.status ∧ response.status < 300
  broken : ∀ failure, d.last.answer = .error failure → p.result = .error failure
  tokenless : d.Rebuffed retryAllowed → d.renewal.result = .ok none →
    ∃ response, d.first.answer = .ok response ∧ p.result = .error (.status response.status)
  failed : d.Rebuffed retryAllowed → ∀ failure, d.renewal.result = .error failure →
    p.result = .error failure
  refused : ∀ second, d.second = some second → ∀ response, second.answer = .ok response →
    response.isSuccess = false → p.result = .error (.status response.status)
  /-- The store is emptied once and keeps the token of the second attempt. -/
  kept : ∀ second, d.second = some second → ∃ token now,
    d.renewal.result = .ok (some token) ∧
      p.store = store.clear.insert c.username ⟨token, now⟩
  renewed : d.Rebuffed retryAllowed → p.store = d.renewal.store ∧
    p.events = d.readings ++ d.first.event ::
      (d.renewal.events ++ d.second.toList.map Exchange.event)
  /-- Nothing else is asked for and the store is left as it was. -/
  single : ¬d.Rebuffed retryAllowed → p.store = store ∧
    p.events = d.readings ++ [d.first.event] ∧ p.result = judged d.first.answer

namespace Ends

variable {policy : TokenPolicy} {retryAllowed : Bool} {c : Credentials} {store : TokenStore}
variable {d : Dispatch} {p : Played (Except Failure Response)}

theorem second_iff (h : Ends retryAllowed store d p) : d.second.isSome = true ↔
    d.Rebuffed retryAllowed ∧ ∃ token, d.renewal.result = .ok (some token) := by
  cases h with
  | atOnce h => exact iff_of_false (by simp) fun hrebuffed => h hrebuffed.1
  | failed _ hrenewal => simp [hrenewal]
  | tokenless _ hrenewal => simp [hrenewal]
  | repeated h hrenewal => exact iff_of_true rfl ⟨h, _, hrenewal⟩

theorem of_second (h : Ends retryAllowed store d p) {second : Exchange}
    (hsecond : d.second = some second) :
    ∃ token, d.renewal.result = .ok (some token) ∧ d.renewal.store = p.store ∧
      second.request = d.first.request.withToken token ∧ p.result = judged second.answer := by
  cases h with
  | atOnce => cases hsecond
  | failed => cases hsecond
  | tokenless => cases hsecond
  | repeated _ hrenewal =>
      cases hsecond
      exact ⟨_, hrenewal, rfl, rfl, rfl⟩

theorem judged_of_refused {exchange : Exchange} (h : exchange.Refused) :
    ∃ response, exchange.answer = .ok response ∧
      judged exchange.answer = .error (.status response.status) := by
  obtain ⟨response, hanswer, hsuccess, -⟩ := h
  exact ⟨response, hanswer, by simp [hanswer, judged, hsuccess, Response.failure]⟩

theorem ok_iff (h : Ends retryAllowed store d p) (response : Response) :
    p.result = .ok response ↔
      d.last.answer = .ok response ∧ 200 ≤ response.status ∧ response.status < 300 := by
  rw [← judged_eq_ok_iff]
  cases h with
  | atOnce => exact Iff.rfl
  | failed h =>
      obtain ⟨_, -, hjudged⟩ := judged_of_refused h.2
      exact iff_of_false nofun (by simp [last, hjudged])
  | tokenless h =>
      obtain ⟨_, -, hjudged⟩ := judged_of_refused h.2
      exact iff_of_false nofun (by simp [last, hjudged])
  | repeated => exact Iff.rfl

theorem broken (h : Ends retryAllowed store d p) {failure : Failure}
    (hlast : d.last.answer = .error failure) : p.result = .error failure := by
  cases h with
  | atOnce => exact congrArg judged hlast
  | failed h =>
      obtain ⟨_, hanswer, -⟩ := h.2
      cases hanswer.symm.trans hlast
  | tokenless => cases hlast
  | repeated => exact congrArg judged hlast

theorem result_of_rebuffed (h : Ends retryAllowed store d p)
    (hrebuffed : d.Rebuffed retryAllowed) :
    (∀ failure, d.renewal.result = .error failure → p.result = .error failure) ∧
      (d.renewal.result = .ok none → ∃ response, d.first.answer = .ok response ∧
        p.result = .error (.status response.status)) := by
  cases h with
  | atOnce h => exact absurd hrebuffed h
  | failed _ hrenewal => simp [hrenewal]
  | tokenless _ hrenewal => simp [hrenewal, Response.failure]
  | repeated _ hrenewal => simp [hrenewal]

theorem renewed (h : Ends retryAllowed store d p) (hrebuffed : d.Rebuffed retryAllowed) :
    p.store = d.renewal.store ∧ p.events = d.readings ++ d.first.event ::
      (d.renewal.events ++ d.second.toList.map Exchange.event) := by
  cases h with
  | atOnce h => exact absurd hrebuffed h
  | failed => simp
  | tokenless => simp [Exchange.event]
  | repeated => exact ⟨rfl, rfl⟩

theorem single (h : Ends retryAllowed store d p) (hrebuffed : ¬d.Rebuffed retryAllowed) :
    p.store = store ∧ p.events = d.readings ++ [d.first.event] ∧
      p.result = judged d.first.answer := by
  cases h with
  | atOnce => exact ⟨rfl, rfl, rfl⟩
  | failed h => exact absurd h hrebuffed
  | tokenless h => exact absurd h hrebuffed
  | repeated h => exact absurd h hrebuffed

end Ends

end Dispatch

open Dispatch Stage in
/-- A send that is neither cancelled nor disturbed makes a second attempt only after a
client error and with a new token, and its last attempt decides. -/
theorem Transport.two_attempts (policy : TokenPolicy) (retryAllowed : Bool)
    (c : Credentials) (request : Request) (store : TokenStore) (o : Outside)
    (h : Uncancelled ((send policy retryAllowed c request).play store o).events) :
    ∃ d : Dispatch, d.Lawful policy retryAllowed c request store o
      ((send policy retryAllowed c request).play store o) := by
  obtain ⟨d, hreadings, hfirst, hrenewal, hends⟩ := ends_of_play h
  generalize (send policy retryAllowed c request).play store o = p at hends ⊢
  refine ⟨d, ?_⟩
  constructor
  case readings => exact hreadings
  case first_of_tokenless =>
    intro htoken
    rw [hfirst, carrying, htoken]
  case first_of_token =>
    intro own htoken
    rw [hfirst, carrying, htoken]
  case renewal => exact hrenewal
  case second_iff => exact hends.second_iff
  case second_request =>
    intro second hsecond token htoken
    obtain ⟨token', htoken', -, hrequest, -⟩ := hends.of_second hsecond
    rw [htoken] at htoken'
    cases htoken'
    exact hrequest
  case ok_iff => exact hends.ok_iff
  case broken => exact fun _ => hends.broken
  case tokenless => exact fun hrebuffed => (hends.result_of_rebuffed hrebuffed).2
  case failed => exact fun hrebuffed => (hends.result_of_rebuffed hrebuffed).1
  case refused =>
    intro second hsecond response hanswer hsuccess
    obtain ⟨_, -, -, -, hresult⟩ := hends.of_second hsecond
    simp [hresult, hanswer, judged, hsuccess, Response.failure]
  case kept =>
    intro second hsecond
    obtain ⟨token, htoken, hstore, -, -⟩ := hends.of_second hsecond
    have hruns := Operation.play_runs (Tokens.acquire policy c) store.clear
      (o.after (d.readings.length + 1))
    rw [← hrenewal, htoken] at hruns
    obtain ⟨_, now, -, -, hgranted⟩ :=
      Tokens.granted_of_acquired rfl (Tokens.acquire_path hruns)
    exact ⟨token, now, htoken, hstore.symm.trans hgranted⟩
  case renewed => exact hends.renewed
  case single => exact hends.single

/-- The token in the store is refused, the one that is granted then is not. -/
def Dispatch.superseding : Outside := fun n =>
  ⟨⟨1704412800, 0⟩, false,
    if n = 3 then .ok ⟨200, "\x7b\"message\":\"OK\",\"token\":\"new\"\x7d"⟩
    else if n = 5 then .ok ⟨200, "[]"⟩
    else .ok ⟨403, ""⟩⟩

open Dispatch Stage Revoked in
theorem Transport.two_attempts_superseding :
    let played := (send policy true viewer request).play store superseding
    (Uncancelled played.events ∧ played.result = .ok ⟨200, "[]"⟩) ∧
      ∃ d : Dispatch, d.Lawful policy true viewer request store superseding played := by
  have h : Uncancelled ((send policy true viewer request).play store superseding).events := by
    decide +kernel
  exact ⟨⟨h, by decide +kernel⟩, two_attempts _ _ _ _ _ _ h⟩

end ProgramGuide
