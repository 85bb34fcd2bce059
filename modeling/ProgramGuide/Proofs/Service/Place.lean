import ProgramGuide.Proofs.Service.Point

/-!
# Places in a call

Where the threads of a system stand, as long as no errands run: before or within the
acquisition of a token, at one of two attempts to send a request, or at the end.
-/

namespace ProgramGuide

namespace Transport

/-- Where a caller stands who sends a request, by what it does next. -/
inductive Place where
  | current
  | age (token : IssuedToken)
  /-- The first or the last attempt; its request may be with the service. -/
  | attempt (last : Bool) (sent : Request) (waiting : Bool)
  | discard (sent : Request) (response : Response)
  | renew (sent : Request) (response : Response) (point : Tokens.Point)
  deriving DecidableEq

namespace Place

open Tokens (Point)

def start (request : Request) : Place :=
  if request.token.isSome then current else attempt false request false

def holds : Place → Bool
  | renew _ _ point => point.holds
  | _ => false

def waiting : Place → Bool
  | attempt _ _ waiting => waiting
  | renew _ _ point => point.waiting
  | _ => false

def rank : Place → Nat
  | attempt true _ waiting => if waiting then 1 else 2
  | renew _ _ point => point.rank + 2
  | discard _ _ => 18
  | attempt false _ waiting => if waiting then 19 else 20
  | age _ => 21
  | current => 22

def lastAttempt (sent : Request) : Task (Except Failure Response) :=
  .exchange sent fun answer => .done (judged answer)

/-- How a caller goes on with the token it has got, if any. -/
def resume (sent : Request) (response : Response) :
    Except Failure (Option String) → Task (Except Failure Response)
  | .ok (some token) => lastAttempt (sent.withToken token)
  | .ok none => .done (.error response.failure)
  | .error failure => .done (.error failure)

variable (policy : TokenPolicy) (retryAllowed : Bool) (c : Credentials) (request : Request)

def discarding (sent : Request) (response : Response) : Task (Except Failure Response) :=
  .amend TokenStore.clear
    (if c.isComplete then
      ((Point.tokens false).task policy c).bind (resume sent response)
    else .done (.error response.failure))

def firstAttempt (sent : Request) : Task (Except Failure Response) :=
  .exchange sent fun answer =>
    match answer with
    | .error failure => .done (.error failure)
    | .ok response =>
        if mayRetry retryAllowed response then discarding policy c sent response
        else .done (judged (.ok response))

def task : Place → Task (Except Failure Response)
  | current => .inspect fun store =>
      match store.get? c.username with
      | none => firstAttempt policy retryAllowed c request
      | some token => .clock fun now =>
          firstAttempt policy retryAllowed c
            (if TokenStore.isFresh policy token now then request.withToken token.value
            else request)
  | age token => .clock fun now =>
      firstAttempt policy retryAllowed c
        (if TokenStore.isFresh policy token now then request.withToken token.value
        else request)
  | attempt false sent _ => firstAttempt policy retryAllowed c sent
  | attempt true sent _ => lastAttempt sent
  | discard sent response => discarding policy c sent response
  | renew sent response point => (point.task policy c).bind (resume sent response)

inductive Next : Place → Deed → Place → Prop
  | absent {store} (h : store.get? c.username = none) :
      Next current (.looked store) (attempt false request false)
  | present {store token} (h : store.get? c.username = some token) :
      Next current (.looked store) (age token)
  | stale {token now} (h : TokenStore.isFresh policy token now = false) :
      Next (age token) (.read now) (attempt false request false)
  | fresh {token now} (h : TokenStore.isFresh policy token now = true) :
      Next (age token) (.read now) (attempt false (request.withToken token.value) false)
  | ask (last sent) : Next (attempt last sent false) (.asked sent) (attempt last sent true)
  | refused {response} (sent) (h : mayRetry retryAllowed response = true) :
      Next (attempt false sent true) (.heard sent (.ok response)) (discard sent response)
  | discard (sent response store) (h : c.isComplete = true) :
      Next (discard sent response) (.amended store store.clear)
        (renew sent response (.tokens false))
  | renew {point deed point'} (sent response) (h : point.Next policy c deed point') :
      Next (renew sent response point) deed (renew sent response point')
  | renewed {point deed token} (sent response)
      (h : point.Ends policy deed (.ok (some token))) :
      Next (renew sent response point) deed (attempt true (sent.withToken token) false)

inductive Ends : Place → Deed → Except Failure Response → Prop
  | abandon (last sent waiting) :
      Ends (attempt last sent waiting) (.cancelled sent) (.error .cancelled)
  | broken (sent failure) :
      Ends (attempt false sent true) (.heard sent (.error failure)) (.error failure)
  | final {response} (sent) (h : mayRetry retryAllowed response = false) :
      Ends (attempt false sent true) (.heard sent (.ok response)) (judged (.ok response))
  | last (sent answer) : Ends (attempt true sent true) (.heard sent answer) (judged answer)
  | incomplete (sent response store) (h : c.isComplete = false) :
      Ends (discard sent response) (.amended store store.clear) (.error response.failure)
  | tokenless {point deed} (sent response) (h : point.Ends policy deed (.ok none)) :
      Ends (renew sent response point) deed (.error response.failure)
  | failed {point deed failure} (sent response)
      (h : point.Ends policy deed (.error failure)) :
      Ends (renew sent response point) deed (.error failure)

end Place

open Operation Place

variable {policy : TokenPolicy} {retryAllowed : Bool} {c : Credentials} {request : Request}

theorem refreshed_andThen {k : Except Failure Request → Task β} :
    (refreshed policy c request).andThen k =
      if request.token.isSome then
        .inspect fun store =>
          match store.get? c.username with
          | none => k (.ok request)
          | some token => .clock fun now =>
              k (.ok (if TokenStore.isFresh policy token now then
                request.withToken token.value else request))
      else k (.ok request) := by
  unfold refreshed
  cases request.token.isSome with
  | false => rfl
  | true =>
      refine (andThen_bind ..).trans (Tokens.current_andThen.trans ?_)
      refine congrArg Task.inspect (funext fun store => ?_)
      cases store.get? c.username with
      | none => rfl
      | some token =>
          refine congrArg Task.clock (funext fun now => ?_)
          dsimp only
          cases TokenStore.isFresh policy token now <;> rfl

theorem attempt_andThen : (attempt request).andThen .done = lastAttempt request := by
  unfold attempt
  rw [andThen_bind, andThen_exchange]
  refine congrArg (Task.exchange request) (funext fun answer => ?_)
  cases answer with
  | error failure => rfl
  | ok response =>
      dsimp only [judged]
      cases response.isSuccess <;> rfl

theorem discarding_eq (sent : Request) (response : Response) :
    (do
      amend TokenStore.clear
      match ← Tokens.acquire policy c with
      | some token => attempt (sent.withToken token)
      | none => throw response.failure : Operation Response).andThen .done =
    discarding policy c sent response := by
  rw [andThen_bind, andThen_amend]
  refine congrArg (Task.amend TokenStore.clear) ?_
  have hresume : (do
      match ← Tokens.acquire policy c with
      | some token => attempt (sent.withToken token)
      | none => throw response.failure : Operation Response).andThen .done =
      (Tokens.acquire policy c).run.bind (resume sent response) := by
    rw [andThen_bind]
    refine congrArg (Task.bind (Tokens.acquire policy c).run) (funext fun result => ?_)
    cases result with
    | error failure => rfl
    | ok token =>
        cases token with
        | none => rfl
        | some token => exact attempt_andThen
  refine hresume.trans ?_
  rw [Tokens.acquire_run]
  cases c.isComplete <;> rfl

theorem send_run :
    (send policy retryAllowed c request).run =
      (Place.start request).task policy retryAllowed c request := by
  rw [← andThen_done]
  have hfirst (sent : Request) : (do
      let response ← exchange sent
      if response.isSuccess then return response
      else if !retryAllowed || 500 ≤ response.status then throw response.failure
      else
        amend TokenStore.clear
        match ← Tokens.acquire policy c with
        | some token => attempt (sent.withToken token)
        | none => throw response.failure : Operation Response).andThen .done =
      firstAttempt policy retryAllowed c sent := by
    rw [andThen_bind, andThen_exchange]
    refine congrArg (Task.exchange sent) (funext fun answer => ?_)
    cases answer with
    | error failure => rfl
    | ok response =>
        have hstatus : decide (response.status < 500) = !decide (500 ≤ response.status) := by
          rw [← decide_not, decide_eq_decide]
          exact Nat.not_le.symm
        have hmay : mayRetry retryAllowed response =
            (!response.isSuccess && !(!retryAllowed || 500 ≤ response.status)) := by
          rw [mayRetry, hstatus, Bool.and_assoc, Bool.not_or, Bool.not_not]
        dsimp only [judged]
        rw [hmay]
        cases response.isSuccess with
        | true => rfl
        | false =>
            cases !retryAllowed || decide (500 ≤ response.status) with
            | true => rfl
            | false => exact discarding_eq sent response
  unfold send
  rw [andThen_bind, refreshed_andThen]
  unfold Place.start
  cases request.token.isSome with
  | false => exact hfirst request
  | true =>
      refine congrArg Task.inspect (funext fun store => ?_)
      cases store.get? c.username with
      | none => exact hfirst request
      | some token => exact congrArg Task.clock (funext fun now => hfirst _)

namespace Place

variable {p p' : Place} {deed : Deed} {result : Except Failure Response}

theorem task_ne_done (p : Place) (result : Except Failure Response) :
    p.task policy retryAllowed c request ≠ .done result := by
  cases p with
  | attempt last => cases last <;> nofun
  | renew sent response point => exact Task.bind_ne_done point.task_ne_done result
  | _ => nofun

theorem next_or_ends_of_does {waiting : Bool} {t : Task (Except Failure Response)}
    (h : (p.task policy retryAllowed c request).Does p.waiting deed t waiting) :
    (∃ p' : Place, p.Next policy retryAllowed c request deed p' ∧
      t = p'.task policy retryAllowed c request ∧ waiting = p'.waiting) ∨
      ∃ result, p.Ends policy retryAllowed c deed result ∧ t = .done result ∧
        waiting = false := by
  cases p with
  | current =>
      cases h with
      | inspect _ store =>
          dsimp only
          cases hget : store.get? c.username with
          | none => exact .inl ⟨_, .absent hget, rfl, rfl⟩
          | some token => exact .inl ⟨_, .present hget, rfl, rfl⟩
  | age token =>
      cases h with
      | clock _ now =>
          dsimp only
          cases hfresh : TokenStore.isFresh policy token now with
          | false => exact .inl ⟨_, .stale hfresh, rfl, rfl⟩
          | true => exact .inl ⟨_, .fresh hfresh, rfl, rfl⟩
  | attempt last sent waiting =>
      generalize hwaiting : (Place.attempt last sent waiting).waiting = w at h
      cases last with
      | true =>
          cases h with
          | ask =>
              obtain rfl : waiting = false := hwaiting
              exact .inl ⟨_, .ask true sent, rfl, rfl⟩
          | cancel => exact .inr ⟨_, .abandon true sent waiting, rfl, rfl⟩
          | hear _ _ answer =>
              obtain rfl : waiting = true := hwaiting
              exact .inr ⟨_, .last sent answer, rfl, rfl⟩
      | false =>
          cases h with
          | ask =>
              obtain rfl : waiting = false := hwaiting
              exact .inl ⟨_, .ask false sent, rfl, rfl⟩
          | cancel => exact .inr ⟨_, .abandon false sent waiting, rfl, rfl⟩
          | hear _ _ answer =>
              obtain rfl : waiting = true := hwaiting
              cases answer with
              | error failure => exact .inr ⟨_, .broken sent failure, rfl, rfl⟩
              | ok response =>
                  dsimp only
                  cases hretry : mayRetry retryAllowed response with
                  | false => exact .inr ⟨_, .final sent hretry, rfl, rfl⟩
                  | true => exact .inl ⟨_, .refused sent hretry, rfl, rfl⟩
  | discard sent response =>
      cases h with
      | amend _ _ store =>
          cases hcomplete : c.isComplete with
          | false => exact .inr ⟨_, .incomplete sent response store hcomplete, rfl, rfl⟩
          | true => exact .inl ⟨_, .discard sent response store hcomplete, rfl, rfl⟩
  | renew sent response point =>
      obtain ⟨t', rfl, hdoes⟩ := Task.Does.of_bind point.task_ne_done h
      obtain ⟨point', hnext, rfl, rfl⟩ | ⟨result, hends, rfl, rfl⟩ :=
        Tokens.Point.next_or_ends_of_does hdoes
      · exact .inl ⟨_, .renew sent response hnext, rfl, rfl⟩
      · cases result with
        | error failure => exact .inr ⟨_, .failed sent response hends, rfl, rfl⟩
        | ok token =>
            cases token with
            | none => exact .inr ⟨_, .tokenless sent response hends, rfl, rfl⟩
            | some token => exact .inl ⟨_, .renewed sent response hends, rfl, rfl⟩

theorem rank_pos (p : Place) : 0 < p.rank := by
  cases p with
  | attempt last sent waiting => cases last <;> cases waiting <;> simp [rank]
  | _ => simp [rank]

theorem Next.rank_lt (h : p.Next policy retryAllowed c request deed p') :
    p'.rank < p.rank := by
  cases h with
  | ask last => cases last <;> simp [rank]
  | renew _ _ h => simpa [rank] using h.rank_lt
  | renewed _ _ h => cases h <;> simp [rank, Tokens.Point.rank]
  | _ => simp [rank, Tokens.Point.rank]

theorem Next.holds_eq (h : p.Next policy retryAllowed c request deed p') :
    p'.holds = deed.held p.holds := by
  cases h with
  | renew _ _ h => exact h.holds_eq
  | renewed _ _ h => exact h.released.symm
  | _ => rfl

theorem Ends.released (h : p.Ends policy retryAllowed c deed result) :
    deed.held p.holds = false := by
  cases h with
  | tokenless _ _ h => exact h.released
  | failed _ _ h => exact h.released
  | _ => rfl

theorem Next.holds_of_unlocked (h : p.Next policy retryAllowed c request .unlocked p') :
    p.holds = true := by
  cases h with
  | renew _ _ h => exact absurd rfl h.ne_unlocked
  | renewed _ _ h => exact h.holds_of_unlocked

theorem Ends.holds_of_unlocked (h : p.Ends policy retryAllowed c .unlocked result) :
    p.holds = true := by
  cases h with
  | tokenless _ _ h => exact h.holds_of_unlocked
  | failed _ _ h => exact h.holds_of_unlocked

theorem exists_exchange_of_waiting (h : p.waiting = true) :
    ∃ sent next, p.task policy retryAllowed c request = .exchange sent next := by
  cases p with
  | attempt last sent waiting => cases last <;> exact ⟨sent, _, rfl⟩
  | renew sent response point =>
      obtain ⟨next, hnext⟩ := Tokens.Point.exists_exchange_of_waiting h
      exact ⟨_, _, congrArg (Task.bind · (resume sent response)) hnext⟩
  | _ => cases h

theorem task_ne_lock_of_holds {next : Bool → Task (Except Failure Response)}
    (h : p.holds = true) : p.task policy retryAllowed c request ≠ .lock next := by
  cases p with
  | renew sent response point =>
      exact Task.bind_ne_lock point.task_ne_done
        (fun _ => Tokens.Point.task_ne_lock_of_holds h) next
  | _ => cases h

end Place

end Transport

end ProgramGuide
