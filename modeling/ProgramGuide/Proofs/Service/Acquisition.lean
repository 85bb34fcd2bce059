import Mathlib.Logic.ExistsUnique
import ProgramGuide.Proofs.Service.Paths
import ProgramGuide.Proofs.Service.TokenStore

/-!
# Acquisition by one caller

What becomes of a caller who asks for a token while no one else does: one of six fates,
each with its conditions, what is sent and the store that is left.
-/

namespace ProgramGuide

def Played.requests (p : Played α) : List Request := p.events.filterMap Event.request?

namespace Tokens

/-- The status an answer comes with, be it that of a response or of a failure. -/
def statusOf : Except Failure Response → Option Nat
  | .ok response => some response.status
  | .error failure => failure.status?

/-- A success whose body says `OK` and brings a token that is not empty. -/
def Grants (answer : Except Failure Response) (token : String) : Prop :=
  ∃ response reply, answer = .ok response ∧ 200 ≤ response.status ∧ response.status < 300 ∧
    response.decode "token" TokenReply.ofJson? = .ok reply ∧
    reply.message = some "OK" ∧ reply.token = some token ∧ token ≠ ""

/-- What comes before the look that counts: nothing, or a look in vain and the lock. -/
inductive Preceded (policy : TokenPolicy) (c : Credentials) (store : TokenStore) :
    List Event → Prop
  | atOnce : Preceded policy c store []
  | locked {look} (h : Looked policy c store look none) :
      Preceded policy c store (look ++ [.wait true])

inductive Fate where
  | incomplete | cached | cooling | granted | rejected | failed
  deriving DecidableEq, Repr

namespace Fate

/-- When a fate falls to a caller, what has happened then and what is left. -/
def Falls (policy : TokenPolicy) (c : Credentials) (store : TokenStore)
    (p : Played (Except Failure (Option String))) : Fate → Prop
  | incomplete =>
      c.isComplete = false ∧ p = ⟨.ok none, store, []⟩ ∧ p.requests = []
  | cached =>
      c.isComplete = true ∧ ∃ before token now, Preceded policy c store before ∧
        store.get? c.username = some token ∧ now.since token.issuedAt < policy.lifetime ∧
        p = ⟨.ok (some token.value), store, before ++ [.read now]⟩ ∧ p.requests = []
  | cooling =>
      c.isComplete = true ∧ ∃ before look since now, Preceded policy c store before ∧
        Current policy c.username store look none ∧ store.lastRejection = some since ∧
        TokenStore.coolingDown policy since now = true ∧
        p = ⟨.ok none, store, before ++ (look ++ [.read now])⟩ ∧ p.requests = []
  | granted =>
      c.isComplete = true ∧ ∃ before look answer token now,
        Looked policy c store before none ∧ Looked policy c store look none ∧
        Grants answer token ∧ p.result = .ok (some token) ∧
        p.events = before ++ .wait true ::
          (look ++ [.exchange (request c) true answer, .read now]) ∧
        p.requests = [request c] ∧
        (∀ username, p.store.get? username =
          if username = c.username then some ⟨token, now⟩ else store.get? username) ∧
        p.store.lastRejection = store.lastRejection
  | rejected =>
      c.isComplete = true ∧ ∃ before look answer now,
        Looked policy c store before none ∧ Looked policy c store look none ∧
        statusOf answer = some 400 ∧
        p = ⟨.error (.authentication (.rejected c.username)),
          ⟨[], some now.milliseconds⟩, before ++ .wait true ::
            (look ++ [.exchange (request c) true answer, .read now])⟩ ∧
        p.requests = [request c]
  | failed =>
      c.isComplete = true ∧ ∃ before failure, Looked policy c store before none ∧
        p.result = .error failure ∧ p.store = store ∧
        -- The caller cancels while it waits for the lock,
        ((failure = .cancelled ∧ p.events = before ++ [.wait false] ∧ p.requests = []) ∨
        ∃ look, Looked policy c store look none ∧
          -- or before it sends the request,
          ((failure = .cancelled ∧ p.events = before ++ .wait true ::
              (look ++ [.exchange (request c) false (.error .cancelled)]) ∧
              p.requests = []) ∨
          -- or the answer brings neither a token nor a rejection.
          ∃ answer, (∀ token, ¬Grants answer token) ∧ statusOf answer ≠ some 400 ∧
            verdict answer = .error failure ∧ p.events = before ++ .wait true ::
              (look ++ [.exchange (request c) true answer]) ∧
            p.requests = [request c]))

/-- The fate as it shows in what happens and comes out. -/
def ofPlayed (c : Credentials) (p : Played (Except Failure (Option String))) : Fate :=
  if !c.isComplete then incomplete
  else
    match p.result, p.events.getLast? with
    | .ok none, _ => cooling
    | .ok (some _), _ => if p.requests.isEmpty then cached else granted
    | .error _, some (.read _) => rejected
    | .error _, _ => failed

end Fate

/-! ## Answers -/

theorem verdict_eq_ok_iff_grants {answer : Except Failure Response} {token : String} :
    verdict answer = .ok token ↔ Grants answer token := by
  rw [verdict_eq_ok_iff]
  simp only [Grants, Response.isSuccess, Status.isSuccess, Bool.and_eq_true,
    decide_eq_true_eq, and_assoc]

theorem status?_eq_none_of_granted {reply : TokenReply} {failure : Failure}
    (h : reply.granted = .error failure) : failure.status? = none := by
  unfold TokenReply.granted at h
  split at h
  · split at h
    · cases h
      rfl
    · cases h
  · cases h
    rfl

/-- Only the status tells a rejection from the other failures. -/
theorem isRejection_iff {answer : Except Failure Response} {failure : Failure}
    (h : verdict answer = .error failure) :
    failure.isRejection = true ↔ statusOf answer = some 400 := by
  cases answer with
  | error cause =>
      cases h
      simp [Failure.isRejection, statusOf, rejectionStatus]
  | ok response =>
      unfold verdict at h
      dsimp only at h
      split at h
      next hsuccess =>
        have hstatus : response.status ≠ 400 := by
          simp only [Response.isSuccess, Status.isSuccess, Bool.and_eq_true,
            decide_eq_true_eq] at hsuccess
          omega
        have hnone : failure.status? = none := by
          cases hreply : response.decode "token" TokenReply.ofJson? with
          | error cause =>
              rw [hreply] at h
              unfold Response.decode at hreply
              split at hreply
              · cases hreply
              · cases hreply
                cases h
                rfl
          | ok reply =>
              rw [hreply] at h
              exact status?_eq_none_of_granted h
        simp [Failure.isRejection, hnone, statusOf, hstatus]
      next =>
        cases h
        simp [Failure.isRejection, Response.failure, Failure.status?, statusOf,
          rejectionStatus]

/-! ## Looks -/

section Looks

variable {policy : TokenPolicy} {c : Credentials} {store : TokenStore}

theorem Current.requests {username : String} {events : List Event} {token : Option String}
    (h : Current policy username store events token) :
    events.filterMap Event.request? = [] := by
  cases h <;> rfl

theorem Cooling.requests {events : List Event} {cooling : Bool}
    (h : Cooling policy store events cooling) : events.filterMap Event.request? = [] := by
  cases h <;> rfl

theorem Looked.requests {events : List Event} {settled : Option (Option String)}
    (h : Looked policy c store events settled) : events.filterMap Event.request? = [] := by
  cases h with
  | cached h => exact h.requests
  | cooling h h' => rw [List.filterMap_append, h.requests, h'.requests, List.append_nil]
  | unsettled h h' => rw [List.filterMap_append, h.requests, h'.requests, List.append_nil]

theorem Preceded.requests {events : List Event} (h : Preceded policy c store events) :
    events.filterMap Event.request? = [] := by
  cases h with
  | atOnce => rfl
  | locked h =>
      rw [List.filterMap_append, h.requests]
      rfl

end Looks

/-! ## Fates -/

namespace Fate

variable {policy : TokenPolicy} {c : Credentials} {store : TokenStore}
variable {p : Played (Except Failure (Option String))}

/-- A look that settles the matter leads to one of two fates. -/
theorem falls_of_settled {before look : List Event} {settled : Option String}
    (hcomplete : c.isComplete = true) (hbefore : Preceded policy c store before)
    (hlook : Looked policy c store look (some settled)) :
    ∃ fate : Fate, fate.Falls policy c store ⟨.ok settled, store, before ++ look⟩ := by
  have hrequests : (before ++ look).filterMap Event.request? = [] := by
    rw [List.filterMap_append, hbefore.requests, hlook.requests, List.append_nil]
  cases hlook with
  | cached h =>
      cases h with
      | @fresh token now hget hfresh =>
          exact ⟨.cached, hcomplete, before, token, now, hbefore, hget,
            TokenStore.isFresh_iff.mp hfresh, rfl, hrequests⟩
  | @cooling first rest hcurrent hcooling =>
      generalize hcool : true = cool at hcooling
      cases hcooling with
      | never => cases hcool
      | since now hlast =>
          exact ⟨.cooling, hcomplete, before, first, _, now, hbefore, hcurrent, hlast,
            hcool.symm, rfl, hrequests⟩

theorem falls_of_refreshed {before look rest : List Event} {token : Except Failure String}
    {store' : TokenStore} (hcomplete : c.isComplete = true)
    (hbefore : Looked policy c store before none) (hlook : Looked policy c store look none)
    (hrefresh : Refreshed c store rest token store') :
    ∃ fate : Fate, fate.Falls policy c store
      ⟨token.map some, store', before ++ .wait true :: (look ++ rest)⟩ := by
  have hrequests : (before ++ .wait true :: (look ++ rest)).filterMap Event.request? =
      rest.filterMap Event.request? := by
    rw [List.filterMap_append, hbefore.requests, List.nil_append,
      List.filterMap_cons_none rfl, List.filterMap_append, hlook.requests, List.nil_append]
  cases hrefresh with
  | @granted answer token now hverdict =>
      refine ⟨.granted, hcomplete, before, look, answer, token, now, hbefore, hlook,
        verdict_eq_ok_iff_grants.mp hverdict, rfl, rfl, hrequests, fun username => ?_, rfl⟩
      exact TokenStore.get?_insert
  | @rejected answer failure now hverdict hrejection =>
      exact ⟨.rejected, hcomplete, before, look, answer, now, hbefore, hlook,
        (isRejection_iff hverdict).mp hrejection, rfl, hrequests⟩
  | @failed sent answer failure hverdict hrejection hsent =>
      refine ⟨.failed, hcomplete, before, failure, hbefore, rfl, rfl,
        .inr ⟨look, hlook, ?_⟩⟩
      cases sent with
      | false =>
          obtain rfl := hsent rfl
          cases hverdict
          exact .inl ⟨rfl, rfl, hrequests⟩
      | true =>
          refine .inr ⟨answer, fun token hgrants => ?_, fun hstatus => ?_, hverdict, rfl,
            hrequests⟩
          · rw [verdict_eq_ok_iff_grants.mpr hgrants] at hverdict
            cases hverdict
          · rw [(isRejection_iff hverdict).mpr hstatus] at hrejection
            cases hrejection

theorem falls_of_acquired {events : List Event} {result : Except Failure (Option String)}
    {store' : TokenStore} (h : Acquired policy c store events result store') :
    ∃ fate : Fate, fate.Falls policy c store ⟨result, store', events⟩ := by
  cases h with
  | incomplete h => exact ⟨.incomplete, h, rfl, rfl⟩
  | settled h hlook => exact falls_of_settled h .atOnce hlook
  | abandoned h hlook =>
      refine ⟨.failed, h, _, .cancelled, hlook, rfl, rfl, .inl ⟨rfl, rfl, ?_⟩⟩
      have hrequests := hlook.requests
      simp [Played.requests, List.filterMap_append, hrequests, Event.request?]
  | @settledLate first second settled h hlook hlook' =>
      have hfalls := falls_of_settled h (.locked hlook) hlook'
      rw [List.append_assoc] at hfalls
      exact hfalls
  | refreshed h hlook hlook' hrefresh => exact falls_of_refreshed h hlook hlook' hrefresh

theorem eq_ofPlayed_of_falls {fate : Fate} (h : fate.Falls policy c store p) :
    fate = ofPlayed c p := by
  unfold ofPlayed
  cases fate with
  | incomplete => simp [h.1]
  | cached =>
      obtain ⟨hcomplete, before, token, now, -, -, -, rfl, hrequests⟩ := h
      simp [hcomplete, hrequests]
  | cooling =>
      obtain ⟨hcomplete, before, look, since, now, -, -, -, -, rfl, -⟩ := h
      simp [hcomplete]
  | granted =>
      obtain ⟨hcomplete, before, look, answer, token, now, -, -, -, hresult, -, hrequests,
        -, -⟩ := h
      simp [hcomplete, hresult, hrequests]
  | rejected =>
      obtain ⟨hcomplete, before, look, answer, now, -, -, -, rfl, -⟩ := h
      simp [hcomplete, List.getLast?_append, List.getLast?_cons]
  | failed =>
      obtain ⟨hcomplete, before, failure, -, hresult, -, ⟨-, hevents, -⟩ | ⟨look, -,
        ⟨-, hevents, -⟩ | ⟨answer, -, -, -, hevents, -⟩⟩⟩ := h <;>
        simp [hcomplete, hresult, hevents, List.getLast?_append, List.getLast?_cons]

end Fate

/-- Whoever asks for a token while no one else does meets precisely one fate, whatever
the store holds, the clock shows and the service answers. -/
theorem existsUnique_fate (policy : TokenPolicy) (c : Credentials) (store : TokenStore)
    (o : Outside) :
    ∃! fate : Fate, fate.Falls policy c store ((acquire policy c).play store o) := by
  have hruns : Acquired policy c store ((acquire policy c).play store o).events
      ((acquire policy c).play store o).result ((acquire policy c).play store o).store :=
    acquire_path (Operation.play_runs (acquire policy c) store o)
  obtain ⟨fate, hfate⟩ := Fate.falls_of_acquired hruns
  refine ⟨fate, hfate, fun other hother => ?_⟩
  rw [Fate.eq_ofPlayed_of_falls hother, Fate.eq_ofPlayed_of_falls hfate]

end Tokens

end ProgramGuide
