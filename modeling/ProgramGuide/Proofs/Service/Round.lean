import ProgramGuide.Proofs.Service.Stage

/-!
# Rounds

A round is what a caller who is alone hands over for one request: an attempt and, after a
client error, a request for a token and a second attempt.
-/

namespace ProgramGuide

/-- A request that was handed over, with what came of it. -/
structure Exchange where
  request : Request
  answer : Except Failure Response
  deriving DecidableEq

namespace Exchange

def success? (exchange : Exchange) : Option Response :=
  (Transport.judged exchange.answer).toOption

def Refused (exchange : Exchange) : Prop :=
  ∃ response, exchange.answer = .ok response ∧ response.isSuccess = false ∧
    response.status < 500

def Attempts (request : Request) (exchange : Exchange) : Prop :=
  ∃ token, exchange.request = { request with token }

theorem Attempts.path {request : Request} {exchange : Exchange}
    (h : exchange.Attempts request) : exchange.request.path = request.path := by
  obtain ⟨token, h⟩ := h
  rw [h]

theorem Attempts.withToken {request renewed : Request} {answer : Except Failure Response}
    (h : Attempts request ⟨renewed, answer⟩) (token : String)
    (answer' : Except Failure Response) :
    Attempts request ⟨renewed.withToken token, answer'⟩ := by
  obtain ⟨_, h⟩ := h
  exact ⟨some token, congrArg (·.withToken token) h⟩

theorem success?_of_refused {exchange : Exchange} (h : exchange.Refused) :
    exchange.success? = none := by
  obtain ⟨response, hanswer, hsuccess, -⟩ := h
  simp [success?, hanswer, Transport.judged, hsuccess, Except.toOption]

end Exchange

/-! ## Exchanges of a run -/

def Event.exchange? : Event → Option Exchange
  | exchange request true answer => some ⟨request, answer⟩
  | _ => none

def exchanges (events : List Event) : List Exchange := events.filterMap Event.exchange?

section Exchanges

variable {events rest : List Event}

@[simp] theorem exchanges_nil : exchanges [] = [] := rfl

@[simp] theorem exchanges_append :
    exchanges (events ++ rest) = exchanges events ++ exchanges rest :=
  List.filterMap_append

@[simp] theorem exchanges_read (now : Instant) :
    exchanges (.read now :: events) = exchanges events :=
  rfl

@[simp] theorem exchanges_wait (held : Bool) :
    exchanges (.wait held :: events) = exchanges events :=
  rfl

@[simp] theorem exchanges_sent (request : Request) (answer : Except Failure Response) :
    exchanges (.exchange request true answer :: events) =
      ⟨request, answer⟩ :: exchanges events :=
  rfl

@[simp] theorem exchanges_unsent (request : Request) (answer : Except Failure Response) :
    exchanges (.exchange request false answer :: events) = exchanges events :=
  rfl

theorem exchanges_of_reads (h : Stage.Reads events) : exchanges events = [] := by
  unfold exchanges
  rw [List.filterMap_eq_nil_iff]
  intro event hevent
  obtain ⟨now, rfl⟩ := h event hevent
  rfl

end Exchanges

namespace Tokens

open Stage

variable {policy : TokenPolicy} {c : Credentials} {store store' : TokenStore}
variable {events : List Event}

theorem exchanges_of_refreshed {result : Except Failure String}
    (h : Refreshed c store events result store') :
    exchanges events = [] ∨ ∃ answer, exchanges events = [⟨request c, answer⟩] := by
  cases h with
  | granted => simp
  | rejected => simp
  | @failed sent => cases sent <;> simp

theorem exchanges_of_acquired {result : Except Failure (Option String)}
    (h : Acquired policy c store events result store') :
    exchanges events = [] ∨ ∃ answer, exchanges events = [⟨request c, answer⟩] := by
  cases h with
  | incomplete => simp
  | settled _ hlook => simp [exchanges_of_reads (reads_of_looked hlook)]
  | abandoned _ hlook => simp [exchanges_of_reads (reads_of_looked hlook)]
  | settledLate _ hlook hlook' =>
      simp [exchanges_of_reads (reads_of_looked hlook),
        exchanges_of_reads (reads_of_looked hlook')]
  | refreshed _ hlook hlook' hrefresh =>
      simpa [exchanges_of_reads (reads_of_looked hlook),
        exchanges_of_reads (reads_of_looked hlook')] using exchanges_of_refreshed hrefresh

theorem not_cached_of_looked {token : String} (hempty : store.tokens = []) :
    ¬Looked policy c store events (some (some token)) := by
  intro h
  cases h with
  | cached h =>
      cases h with
      | fresh hget => simp [TokenStore.get?, hempty] at hget

/-- An empty store gets its token from the service. -/
theorem granted_of_acquired {token : String} (hempty : store.tokens = [])
    (h : Acquired policy c store events (.ok (some token)) store') :
    ∃ answer now, exchanges events = [⟨request c, answer⟩] ∧ verdict answer = .ok token ∧
      store' = store.insert c.username ⟨token, now⟩ := by
  generalize hresult : Except.ok (some token) = result at h
  cases h with
  | incomplete => cases hresult
  | settled _ hlook =>
      cases hresult
      exact absurd hlook (not_cached_of_looked hempty)
  | abandoned => cases hresult
  | settledLate _ _ hlook =>
      cases hresult
      exact absurd hlook (not_cached_of_looked hempty)
  | refreshed _ hlook hlook' hrefresh =>
      cases hrefresh with
      | @granted answer _ now hverdict =>
          cases hresult
          refine ⟨answer, now, ?_, hverdict, rfl⟩
          simp [exchanges_of_reads (reads_of_looked hlook),
            exchanges_of_reads (reads_of_looked hlook')]
      | rejected => cases hresult
      | failed => cases hresult

theorem spared_of_acquired
    (h : Acquired policy c store events (.error .cancelled) store') :
    store' = store ∧
      ∀ asked ∈ exchanges events, ∀ token, verdict asked.answer ≠ .ok token := by
  generalize hresult : Except.error Failure.cancelled = result at h
  cases h with
  | incomplete => cases hresult
  | settled => cases hresult
  | abandoned _ hlook => simp [exchanges_of_reads (reads_of_looked hlook)]
  | settledLate => cases hresult
  | refreshed _ hlook hlook' hrefresh =>
      cases hrefresh with
      | granted => cases hresult
      | rejected => cases hresult
      | @failed sent _ _ hverdict =>
          refine ⟨rfl, ?_⟩
          cases sent <;>
            simp [exchanges_of_reads (reads_of_looked hlook),
              exchanges_of_reads (reads_of_looked hlook'), hverdict]

end Tokens

/-! ## Rounds of a request -/

/-- What is handed over in a round and the response it brings, if any. -/
inductive Round (c : Credentials) (request : Request) :
    List Exchange → Option Response → Prop
  | unsent : Round c request [] none
  | once {first} (h : first.Attempts request) : Round c request [first] first.success?
  | renewing {first asked} (h : first.Attempts request) (hrefused : first.Refused)
      (hasked : asked.request = Tokens.request c) : Round c request [first, asked] none
  | twice {first asked last} (h : first.Attempts request) (hrefused : first.Refused)
      (hasked : asked.request = Tokens.request c) (hlast : last.Attempts request) :
      Round c request [first, asked, last] last.success?

namespace Round

variable {c : Credentials} {request : Request} {sent : List Exchange}
variable {outcome : Option Response}

theorem of_withToken {token : String} (h : Round c (request.withToken token) sent outcome) :
    Round c request sent outcome := by
  cases h with
  | unsent => exact .unsent
  | once h => exact .once h
  | renewing h hrefused hasked => exact .renewing h hrefused hasked
  | twice h hrefused hasked hlast => exact .twice h hrefused hasked hlast

theorem length_le (h : Round c request sent outcome) : sent.length ≤ 3 := by
  cases h <;> simp

/-- There are attempts at the request in a round, and requests for a token. -/
theorem attempts_or_token (h : Round c request sent outcome) {exchange : Exchange}
    (hsent : exchange ∈ sent) :
    exchange.Attempts request ∨ exchange.request = Tokens.request c := by
  cases h with
  | unsent => cases hsent
  | once h =>
      obtain rfl := List.mem_singleton.mp hsent
      exact .inl h
  | renewing h _ hasked =>
      simp only [List.mem_cons, List.not_mem_nil, or_false] at hsent
      obtain rfl | rfl := hsent
      · exact .inl h
      · exact .inr hasked
  | twice h _ hasked hlast =>
      simp only [List.mem_cons, List.not_mem_nil, or_false] at hsent
      obtain rfl | rfl | rfl := hsent
      · exact .inl h
      · exact .inr hasked
      · exact .inl hlast

/-- There is at most one request for a token in a round of something else. -/
theorem countP_token_le (hpath : request.path ≠ "token") (h : Round c request sent outcome) :
    sent.countP (·.request.path == "token") ≤ 1 := by
  have hattempt {exchange : Exchange} (h : exchange.Attempts request) :
      (exchange.request.path == "token") = false := by
    rw [h.path]
    simpa using hpath
  cases h with
  | unsent => simp
  | once h => simp [hattempt h]
  | renewing h _ hasked => simp [hattempt h, hasked, Tokens.request, Request.post]
  | twice h _ hasked hlast =>
      simp [hattempt h, hattempt hlast, hasked, Tokens.request, Request.post]

end Round

namespace Transport

variable {policy : TokenPolicy} {c : Credentials} {retryAllowed : Bool}
variable {request : Request} {store store' : TokenStore} {events : List Event}

theorem attempts_of_renewed {renewed : Request}
    (h : Renewed policy c request store events renewed) (answer : Except Failure Response) :
    Exchange.Attempts request ⟨renewed, answer⟩ := by
  cases h with
  | tokenless => exact ⟨request.token, rfl⟩
  | same => exact ⟨request.token, rfl⟩
  | @renewed _ token => exact ⟨some token, rfl⟩

theorem refused_of_mayRetry {response : Response} (h : mayRetry retryAllowed response = true)
    (request : Request) :
    retryAllowed = true ∧ Exchange.Refused ⟨request, .ok response⟩ := by
  simp only [mayRetry, Bool.and_eq_true, Bool.not_eq_true', decide_eq_true_eq] at h
  exact ⟨h.1.2, response, rfl, h.1.1, h.2⟩

theorem exchanges_of_renewed {renewed : Request} (rest : List Event)
    (h : Renewed policy c request store events renewed) :
    exchanges (events ++ rest) = exchanges rest := by
  rw [exchanges_append, exchanges_of_reads (Stage.reads_of_renewed h), List.nil_append]

private theorem round_of_acquired {first : Exchange}
    {token : Except Failure (Option String)} (hfirst : first.Attempts request)
    (hrefused : first.Refused) (h : Tokens.Acquired policy c store events token store') :
    Round c request (first :: exchanges events) none := by
  obtain hevents | ⟨answer, hevents⟩ := Tokens.exchanges_of_acquired h
  · rw [hevents, ← Exchange.success?_of_refused hrefused]
    exact .once hfirst
  · rw [hevents]
    exact .renewing hfirst hrefused rfl

theorem round_of_sent {result : Except Failure Response}
    (h : Sent policy retryAllowed c request store events result store') :
    Round c request (exchanges events) result.toOption := by
  cases h with
  | @broken _ _ sent failure h =>
      rw [exchanges_of_renewed _ h]
      cases sent with
      | false => exact .unsent
      | true => exact .once (attempts_of_renewed h (.error failure))
  | @final _ _ response h =>
      rw [exchanges_of_renewed _ h]
      exact .once (attempts_of_renewed h (.ok response))
  | @tokenFailed _ renewed response _ _ _ h hretry hacquire =>
      rw [exchanges_of_renewed _ h, exchanges_sent]
      exact round_of_acquired (attempts_of_renewed h _) (refused_of_mayRetry hretry _).2
        hacquire
  | @tokenless _ renewed response _ _ h hretry hacquire =>
      rw [exchanges_of_renewed _ h, exchanges_sent]
      exact round_of_acquired (attempts_of_renewed h _) (refused_of_mayRetry hretry _).2
        hacquire
  | @retried _ renewed response rest token sent answer _ h hretry hacquire hsent =>
      have hfirst := attempts_of_renewed h (.ok response)
      have hrefused := (refused_of_mayRetry hretry renewed).2
      obtain ⟨reply, now, hrest, -⟩ := Tokens.granted_of_acquired rfl hacquire
      rw [exchanges_of_renewed _ h, exchanges_sent, exchanges_append, hrest]
      cases sent with
      | false =>
          obtain rfl := hsent rfl
          exact .renewing hfirst hrefused rfl
      | true => exact .twice hfirst hrefused rfl (hfirst.withToken token answer)

private theorem attempted_of_renewed {renewed : Request}
    (h : Renewed policy c request store events renewed) (answer : Except Failure Response)
    (rest : List Event) :
    ∃ exchange ∈ exchanges (events ++ .exchange renewed true answer :: rest),
      exchange.Attempts request := by
  rw [exchanges_of_renewed _ h, exchanges_sent]
  exact ⟨⟨renewed, answer⟩, List.mem_cons_self, attempts_of_renewed h answer⟩

/-- What is sent and not cancelled has been attempted. -/
theorem attempted_of_sent {result : Except Failure Response}
    (h : Sent policy retryAllowed c request store events result store')
    (hevents : Uncancelled events) :
    ∃ exchange ∈ exchanges events, exchange.Attempts request := by
  cases h with
  | @broken _ _ sent _ h hsent =>
      cases sent with
      | false =>
          obtain rfl := hsent rfl
          have hlast := (Stage.uncancelled_append.mp hevents).2 _ (List.mem_singleton_self _)
          cases hlast
      | true => exact attempted_of_renewed h _ []
  | final h => exact attempted_of_renewed h _ []
  | tokenFailed h => exact attempted_of_renewed h _ _
  | tokenless h => exact attempted_of_renewed h _ _
  | retried h => exact attempted_of_renewed h _ _

end Transport

/-! ## Cancelled sends -/

namespace Transport

variable {policy : TokenPolicy} {c : Credentials} {retryAllowed : Bool}
variable {request : Request} {store : TokenStore} {o : Outside}

/-- A client error at the first attempt, with leave to try again. -/
def Rebuffed (retryAllowed : Bool) (sent : List Exchange) : Prop :=
  retryAllowed = true ∧ ∃ first, sent.head? = some first ∧ first.Refused

/-- The store that a cancelled send leaves: the one it found or, after a rebuff, one with
no token but that which has been granted since. -/
inductive Remains (retryAllowed : Bool) (c : Credentials) (store : TokenStore)
    (sent : List Exchange) : TokenStore → Prop
  | untouched (h : ¬Rebuffed retryAllowed sent) : Remains retryAllowed c store sent store
  | emptied (h : Rebuffed retryAllowed sent)
      (hasked : ∀ asked ∈ sent[1]?, ∀ token, Tokens.verdict asked.answer ≠ .ok token) :
      Remains retryAllowed c store sent { store with tokens := [] }
  | renewed {asked token} (now) (h : Rebuffed retryAllowed sent)
      (hasked : sent[1]? = some asked) (hrequest : asked.request = Tokens.request c)
      (hgranted : Tokens.verdict asked.answer = .ok token) :
      Remains retryAllowed c store sent
        { store with tokens := [(c.username, ⟨token, now⟩)] }

private theorem not_rebuffed_of_failure {first : Exchange} {failure : Failure}
    (h : first.answer = .error failure) (rest : List Exchange) :
    ¬Rebuffed retryAllowed (first :: rest) := by
  rintro ⟨-, _, hfirst, response, hanswer, -⟩
  cases hfirst
  rw [h] at hanswer
  cases hanswer

theorem store_of_cancelled
    (h : ((send policy retryAllowed c request).play store o).result =
      .error .cancelled) :
    let played := (send policy retryAllowed c request).play store o
    Remains retryAllowed c store (exchanges played.events) played.store := by
  have hrun := send_path (Operation.play_runs (send policy retryAllowed c request) store o)
  rw [h] at hrun
  dsimp only
  generalize ((send policy retryAllowed c request).play store o).events = events at hrun ⊢
  generalize ((send policy retryAllowed c request).play store o).store = store' at hrun ⊢
  generalize hresult : Except.error Failure.cancelled = result at hrun
  cases hrun with
  | @broken _ _ sent _ h =>
      rw [exchanges_of_renewed _ h]
      cases sent with
      | false => exact .untouched (by simp [Rebuffed])
      | true => exact .untouched (not_rebuffed_of_failure rfl _)
  | final => exact absurd hresult.symm (Stage.judged_ne_cancelled (by simp))
  | @tokenFailed _ renewed _ _ _ _ h hretry hacquire =>
      cases hresult
      obtain ⟨hallowed, hrefused⟩ := refused_of_mayRetry hretry renewed
      obtain ⟨rfl, hspared⟩ := Tokens.spared_of_acquired hacquire
      rw [exchanges_of_renewed _ h, exchanges_sent]
      refine .emptied ⟨hallowed, _, rfl, hrefused⟩ ?_
      intro asked hasked
      exact hspared asked (List.mem_of_getElem? hasked)
  | tokenless => cases hresult
  | @retried _ renewed _ _ _ _ _ _ h hretry hacquire =>
      obtain ⟨hallowed, hrefused⟩ := refused_of_mayRetry hretry renewed
      obtain ⟨reply, now, hrest, hverdict, rfl⟩ := Tokens.granted_of_acquired rfl hacquire
      rw [exchanges_of_renewed _ h, exchanges_sent, exchanges_append, hrest]
      exact .renewed now ⟨hallowed, _, rfl, hrefused⟩ rfl rfl hverdict

end Transport

namespace Revoked

def policy : TokenPolicy := ⟨72000000000000, 60000000000⟩

def viewer : Credentials := ⟨"viewer", "pw"⟩

def request : Request := (Request.get "lineups").withToken "old"

def store : TokenStore :=
  ⟨[("viewer", ⟨"old", ⟨1704412800, 0⟩⟩), ("guest", ⟨"other", ⟨1704412800, 0⟩⟩)], none⟩

def outside : Outside := fun n =>
  ⟨⟨1704412800, 0⟩, false, if n = 3 then .error .cancelled else .ok ⟨403, ""⟩⟩

end Revoked

open Revoked in
theorem Transport.store_of_cancelled_revoked :
    let played := (Transport.send policy true viewer request).play store outside
    played.result = .error .cancelled ∧
      Transport.Remains true viewer store (exchanges played.events) played.store := by
  have h : ((Transport.send policy true viewer request).play store outside).result =
      .error .cancelled := by decide +kernel
  exact ⟨h, Transport.store_of_cancelled h⟩

theorem Transport.not_untouched_of_cancelled :
    ¬∀ (policy : TokenPolicy) (retryAllowed : Bool) (c : Credentials) (request : Request)
      (store : TokenStore) (o : Outside),
      ((Transport.send policy retryAllowed c request).play store o).result =
          .error .cancelled →
        ((Transport.send policy retryAllowed c request).play store o).store.tokens =
            store.tokens ∧
          ((Transport.send policy retryAllowed c request).play store o).store.lastRejection =
            store.lastRejection := by
  intro h
  have hstore := h Revoked.policy true Revoked.viewer Revoked.request Revoked.store
    Revoked.outside (by decide +kernel)
  exact absurd hstore.1 (by decide +kernel)

end ProgramGuide
