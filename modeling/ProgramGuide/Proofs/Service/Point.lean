import ProgramGuide.Proofs.Service.Happening
import ProgramGuide.Proofs.Service.Paths

/-!
# Points of an acquisition

A caller who acquires a token is always at one of a few points, and what it does next
says at which it is then.
-/

namespace ProgramGuide

/-! ## Operations and what follows them -/

namespace Operation

/-- An operation and what is done with its result. -/
def andThen (op : Operation α) (k : Except Failure α → Task β) : Task β := op.run.bind k

variable {k : Except Failure α → Task β}

theorem andThen_done (op : Operation α) : op.andThen .done = op.run := Task.bind_done op.run

@[simp] theorem andThen_pure (a : α) : (pure a : Operation α).andThen k = k (.ok a) := rfl

@[simp] theorem andThen_throw (failure : Failure) :
    (throw failure : Operation α).andThen k = k (.error failure) :=
  rfl

@[simp] theorem andThen_ofExcept (result : Except Failure α) :
    (ofExcept result).andThen k = k result :=
  rfl

@[simp] theorem andThen_now {k : Except Failure Instant → Task β} :
    now.andThen k = .clock fun now => k (.ok now) :=
  rfl

@[simp] theorem andThen_store {k : Except Failure TokenStore → Task β} :
    store.andThen k = .inspect fun store => k (.ok store) :=
  rfl

@[simp] theorem andThen_amend {change : TokenStore → TokenStore}
    {k : Except Failure Unit → Task β} :
    (amend change).andThen k = .amend change (k (.ok ())) :=
  rfl

@[simp] theorem andThen_exchange {request : Request} {k : Except Failure Response → Task β} :
    (exchange request).andThen k = .exchange request k :=
  rfl

@[simp] theorem andThen_bind {op : Operation γ} {f : γ → Operation α} :
    (op >>= f).andThen k =
      op.andThen fun result =>
        match result with
        | .ok a => (f a).andThen k
        | .error failure => k (.error failure) := by
  refine (Task.bind_bind op.run _ k).trans ?_
  refine congrArg (Task.bind op.run) (funext fun result => ?_)
  cases result <;> rfl

@[simp] theorem andThen_outcome {op : Operation γ}
    {k : Except Failure (Except Failure γ) → Task β} :
    op.outcome.andThen k = op.andThen fun result => k (.ok result) :=
  Task.bind_bind op.run _ k

theorem andThen_locked {op : Operation α} :
    op.locked.andThen k =
      .lock fun held =>
        if held then op.andThen fun result => .unlock (k result)
        else k (.error .cancelled) := by
  refine congrArg Task.lock (funext fun held => ?_)
  cases held with
  | false => rfl
  | true => exact Task.bind_bind op.run _ k

end Operation

/-! ## Points -/

namespace Tokens

/-- Where a caller stands in the acquisition of a token, by what it does next.  It looks at
the store twice, without the lock and with it. -/
inductive Point where
  | tokens (held : Bool)
  | age (held : Bool) (token : IssuedToken)
  | rejection (held : Bool)
  | cooldown (held : Bool) (since : Int)
  | queue
  | ask (waiting : Bool)
  | stamp (value : String)
  | keep (token : IssuedToken)
  | drop
  | mark
  | reject (now : Instant)
  | release (result : Except Failure (Option String))
  deriving DecidableEq

namespace Point

def rank : Point → Nat
  | release _ => 1
  | keep _ => 2
  | reject _ => 2
  | stamp _ => 3
  | mark => 3
  | drop => 4
  | ask waiting => if waiting then 5 else 6
  | cooldown held _ => if held then 7 else 12
  | rejection held => if held then 8 else 13
  | age held _ => if held then 9 else 14
  | tokens held => if held then 10 else 15
  | queue => 11

def task (policy : TokenPolicy) (c : Credentials) :
    Point → Task (Except Failure (Option String))
  | tokens held => .inspect fun store =>
      match store.get? c.username with
      | none => task policy c (rejection held)
      | some token => task policy c (age held token)
  | age held token => .clock fun now =>
      if TokenStore.isFresh policy token now then
        if held then task policy c (release (.ok (some token.value)))
        else .done (.ok (some token.value))
      else task policy c (rejection held)
  | rejection held => .inspect fun store =>
      match store.lastRejection with
      | none => if held then task policy c (ask false) else task policy c queue
      | some since => task policy c (cooldown held since)
  | cooldown held since => .clock fun now =>
      if TokenStore.coolingDown policy since now then
        if held then task policy c (release (.ok none)) else .done (.ok none)
      else if held then task policy c (ask false)
      else task policy c queue
  | queue => .lock fun held =>
      if held then task policy c (tokens true) else .done (.error .cancelled)
  | ask _ => .exchange (request c) fun answer =>
      match verdict answer with
      | .ok value => task policy c (stamp value)
      | .error failure =>
          if failure.isRejection then task policy c drop
          else task policy c (release (.error failure))
  | stamp value => .clock fun now => task policy c (keep ⟨value, now⟩)
  | keep token =>
      .amend (·.insert c.username token) (task policy c (release (.ok (some token.value))))
  | drop => .amend TokenStore.clear (task policy c mark)
  | mark => .clock fun now => task policy c (reject now)
  | reject now =>
      .amend (·.reject now)
        (task policy c (release (.error (.authentication (.rejected c.username)))))
  | release result => .unlock (.done result)
termination_by p => p.rank
decreasing_by all_goals simp [rank, *] <;> split <;> omega


end Point

open Operation

variable {policy : TokenPolicy} {c : Credentials}

theorem authenticate_andThen {k : Except Failure String → Task β} :
    (authenticate c).andThen k = .exchange (request c) fun answer => k (verdict answer) := by
  unfold authenticate
  rw [andThen_bind, andThen_exchange]
  refine congrArg (Task.exchange (request c)) (funext fun answer => ?_)
  cases answer with
  | error failure => rfl
  | ok response =>
      unfold verdict
      dsimp only
      by_cases h : response.isSuccess = true
      · rw [if_pos h, if_pos h, andThen_bind, andThen_ofExcept]
        cases response.decode "token" TokenReply.ofJson? <;> rfl
      · rw [if_neg h, if_neg h, andThen_throw]

theorem current_andThen {username : String} {k : Except Failure (Option String) → Task β} :
    (current policy username).andThen k = .inspect fun store =>
      match store.get? username with
      | none => k (.ok none)
      | some token => .clock fun now =>
          k (.ok (if TokenStore.isFresh policy token now then some token.value else none)) := by
  unfold current
  rw [andThen_bind, andThen_store]
  refine congrArg Task.inspect (funext fun store => ?_)
  dsimp only
  cases store.get? username <;> rfl

theorem inCooldown_andThen {k : Except Failure Bool → Task β} :
    (inCooldown policy).andThen k = .inspect fun store =>
      match store.lastRejection with
      | none => k (.ok false)
      | some since => .clock fun now => k (.ok (TokenStore.coolingDown policy since now)) := by
  unfold inCooldown
  rw [andThen_bind, andThen_store]
  refine congrArg Task.inspect (funext fun store => ?_)
  dsimp only
  cases store.lastRejection <;> rfl

theorem refresh_andThen {waiting : Bool} :
    (refresh c).andThen (fun result => .unlock (.done (result.map some))) =
      (Point.ask waiting).task policy c := by
  unfold refresh
  rw [andThen_bind, andThen_outcome, authenticate_andThen, Point.task]
  refine congrArg (Task.exchange (request c)) (funext fun answer => ?_)
  cases verdict answer with
  | ok value =>
      simp only [Point.task]
      rfl
  | error failure =>
      dsimp only
      cases failure.isRejection <;> simp only [Point.task] <;> rfl

/-- A look, with what follows on it. -/
theorem look_andThen {held : Bool}
    {k : Except Failure (Option (Option String)) → Task (Except Failure (Option String))}
    (hsettled : ∀ result, k (.ok (some result)) =
      if held then (Point.release (.ok result)).task policy c else .done (.ok result))
    (hunsettled : k (.ok none) =
      if held then (Point.ask false).task policy c else Point.queue.task policy c) :
    (look policy c).andThen k = (Point.tokens held).task policy c := by
  have hrejection :
      (do return if ← inCooldown policy then some none else none :
        Operation (Option (Option String))).andThen k =
      (Point.rejection held).task policy c := by
    rw [andThen_bind, inCooldown_andThen, Point.task]
    refine congrArg Task.inspect (funext fun store => ?_)
    cases store.lastRejection with
    | none => exact hunsettled
    | some since =>
        dsimp only
        rw [Point.task]
        refine congrArg Task.clock (funext fun now => ?_)
        cases TokenStore.coolingDown policy since now with
        | false => exact hunsettled
        | true => exact hsettled none
  unfold look
  rw [andThen_bind, current_andThen, Point.task]
  refine congrArg Task.inspect (funext fun store => ?_)
  cases store.get? c.username with
  | none => exact hrejection
  | some token =>
      dsimp only
      rw [Point.task]
      refine congrArg Task.clock (funext fun now => ?_)
      cases TokenStore.isFresh policy token now with
      | false => exact hrejection
      | true => exact hsettled (some token.value)

theorem acquire_run :
    (acquire policy c).run =
      if c.isComplete then (Point.tokens false).task policy c else .done (.ok none) := by
  rw [← andThen_done]
  unfold acquire
  cases c.isComplete with
  | false => rfl
  | true =>
      refine (andThen_bind ..).trans (look_andThen (fun _ => rfl) ?_)
      refine (andThen_locked ..).trans ?_
      rw [if_neg (by decide), Point.task]
      refine congrArg Task.lock (funext fun held => ?_)
      cases held with
      | false => rfl
      | true =>
          refine (andThen_bind ..).trans (look_andThen (fun _ => ?_) ?_)
          · simp only [Point.task]
            rfl
          · rw [if_pos rfl, ← refresh_andThen]
            refine (andThen_bind ..).trans ?_
            refine congrArg (Task.bind (refresh c).run) (funext fun result => ?_)
            cases result <;> rfl

namespace Point

def holds : Point → Bool
  | tokens held => held
  | age held _ => held
  | rejection held => held
  | cooldown held _ => held
  | queue => false
  | _ => true

def waiting : Point → Bool
  | ask waiting => waiting
  | _ => false

inductive Next (policy : TokenPolicy) (c : Credentials) : Point → Deed → Point → Prop
  | absent {store} (held) (h : store.get? c.username = none) :
      Next policy c (tokens held) (.looked store) (rejection held)
  | present {store token} (held) (h : store.get? c.username = some token) :
      Next policy c (tokens held) (.looked store) (age held token)
  | stale {token now} (held) (h : TokenStore.isFresh policy token now = false) :
      Next policy c (age held token) (.read now) (rejection held)
  | fresh {token now} (h : TokenStore.isFresh policy token now = true) :
      Next policy c (age true token) (.read now) (release (.ok (some token.value)))
  | since {store since} (held) (h : store.lastRejection = some since) :
      Next policy c (rejection held) (.looked store) (cooldown held since)
  | cooling {since now} (h : TokenStore.coolingDown policy since now = true) :
      Next policy c (cooldown true since) (.read now) (release (.ok none))
  | never {store} (h : store.lastRejection = none) :
      Next policy c (rejection false) (.looked store) queue
  | warm {since now} (h : TokenStore.coolingDown policy since now = false) :
      Next policy c (cooldown false since) (.read now) queue
  | enter : Next policy c queue .locked (tokens true)
  | neverLocked {store} (h : store.lastRejection = none) :
      Next policy c (rejection true) (.looked store) (ask false)
  | warmLocked {since now} (h : TokenStore.coolingDown policy since now = false) :
      Next policy c (cooldown true since) (.read now) (ask false)
  | ask : Next policy c (ask false) (.asked (request c)) (ask true)
  | granted {answer value} (h : verdict answer = .ok value) :
      Next policy c (.ask true) (.heard (request c) answer) (stamp value)
  | rejected {answer failure} (h : verdict answer = .error failure)
      (hrejection : failure.isRejection = true) :
      Next policy c (.ask true) (.heard (request c) answer) drop
  | failed {answer failure} (h : verdict answer = .error failure)
      (hrejection : failure.isRejection = false) :
      Next policy c (.ask true) (.heard (request c) answer) (release (.error failure))
  | abandon (waiting) :
      Next policy c (.ask waiting) (.cancelled (request c)) (release (.error .cancelled))
  | stamp (value now) : Next policy c (stamp value) (.read now) (keep ⟨value, now⟩)
  | keep (token store) :
      Next policy c (keep token) (.amended store (store.insert c.username token))
        (release (.ok (some token.value)))
  | drop (store) : Next policy c drop (.amended store store.clear) mark
  | mark (now) : Next policy c mark (.read now) (reject now)
  | reject (now store) :
      Next policy c (reject now) (.amended store (store.reject now))
        (release (.error (.authentication (.rejected c.username))))

inductive Ends (policy : TokenPolicy) :
    Point → Deed → Except Failure (Option String) → Prop
  | fresh {token now} (h : TokenStore.isFresh policy token now = true) :
      Ends policy (age false token) (.read now) (.ok (some token.value))
  | cooling {since now} (h : TokenStore.coolingDown policy since now = true) :
      Ends policy (cooldown false since) (.read now) (.ok none)
  | leave : Ends policy queue .left (.error .cancelled)
  | release (result) : Ends policy (release result) .unlocked result

theorem task_ne_done (p : Point) (result : Except Failure (Option String)) :
    p.task policy c ≠ .done result := by
  cases p <;> rw [task] <;> nofun

theorem next_or_ends_of_does {p : Point} {deed : Deed} {waiting : Bool}
    {t : Task (Except Failure (Option String))}
    (h : (p.task policy c).Does p.waiting deed t waiting) :
    (∃ p' : Point, p.Next policy c deed p' ∧ t = p'.task policy c ∧ waiting = p'.waiting) ∨
      ∃ result, p.Ends policy deed result ∧ t = .done result ∧ waiting = false := by
  cases p with
  | tokens held =>
      rw [task] at h
      cases h with
      | inspect _ store =>
          dsimp only
          cases hget : store.get? c.username with
          | none => exact .inl ⟨_, .absent held hget, rfl, rfl⟩
          | some token => exact .inl ⟨_, .present held hget, rfl, rfl⟩
  | age held token =>
      rw [task] at h
      cases h with
      | clock _ now =>
          dsimp only
          cases hfresh : TokenStore.isFresh policy token now with
          | false => exact .inl ⟨_, .stale held hfresh, rfl, rfl⟩
          | true =>
              cases held with
              | false => exact .inr ⟨_, .fresh hfresh, rfl, rfl⟩
              | true => exact .inl ⟨_, .fresh hfresh, rfl, rfl⟩
  | rejection held =>
      rw [task] at h
      cases h with
      | inspect _ store =>
          dsimp only
          cases hlast : store.lastRejection with
          | some since => exact .inl ⟨_, .since held hlast, rfl, rfl⟩
          | none =>
              cases held with
              | false => exact .inl ⟨_, .never hlast, rfl, rfl⟩
              | true => exact .inl ⟨_, .neverLocked hlast, rfl, rfl⟩
  | cooldown held since =>
      rw [task] at h
      cases h with
      | clock _ now =>
          dsimp only
          cases hcool : TokenStore.coolingDown policy since now with
          | false =>
              cases held with
              | false => exact .inl ⟨_, .warm hcool, rfl, rfl⟩
              | true => exact .inl ⟨_, .warmLocked hcool, rfl, rfl⟩
          | true =>
              cases held with
              | false => exact .inr ⟨_, .cooling hcool, rfl, rfl⟩
              | true => exact .inl ⟨_, .cooling hcool, rfl, rfl⟩
  | queue =>
      rw [task] at h
      cases h with
      | lock => exact .inl ⟨_, .enter, rfl, rfl⟩
      | leave => exact .inr ⟨_, .leave, rfl, rfl⟩
  | ask waiting =>
      have hasked : (Point.ask waiting).task policy c = (Point.ask true).task policy c := by
        rw [← refresh_andThen, refresh_andThen]
      rw [task] at h hasked
      generalize hwaiting : (Point.ask waiting).waiting = w at h
      cases h with
      | ask =>
          obtain rfl : waiting = false := hwaiting
          exact .inl ⟨_, .ask, hasked, rfl⟩
      | cancel => exact .inl ⟨_, .abandon waiting, rfl, rfl⟩
      | hear _ _ answer =>
          obtain rfl : waiting = true := hwaiting
          dsimp only
          cases hverdict : verdict answer with
          | ok value => exact .inl ⟨_, .granted hverdict, rfl, rfl⟩
          | error failure =>
              dsimp only
              cases hrejection : failure.isRejection with
              | false => exact .inl ⟨_, .failed hverdict hrejection, rfl, rfl⟩
              | true => exact .inl ⟨_, .rejected hverdict hrejection, rfl, rfl⟩
  | stamp value =>
      rw [task] at h
      cases h with
      | clock _ now => exact .inl ⟨_, .stamp value now, rfl, rfl⟩
  | keep token =>
      rw [task] at h
      cases h with
      | amend _ _ store => exact .inl ⟨_, .keep token store, rfl, rfl⟩
  | drop =>
      rw [task] at h
      cases h with
      | amend _ _ store => exact .inl ⟨_, .drop store, rfl, rfl⟩
  | mark =>
      rw [task] at h
      cases h with
      | clock _ now => exact .inl ⟨_, .mark now, rfl, rfl⟩
  | reject now =>
      rw [task] at h
      cases h with
      | amend _ _ store => exact .inl ⟨_, .reject now store, rfl, rfl⟩
  | release result =>
      rw [task] at h
      cases h with
      | unlock => exact .inr ⟨_, .release result, rfl, rfl⟩

variable {p p' : Point} {deed : Deed} {result : Except Failure (Option String)}

theorem Next.holds_eq (h : p.Next policy c deed p') : p'.holds = deed.held p.holds := by
  cases h <;> rfl

theorem Ends.released (h : p.Ends policy deed result) : deed.held p.holds = false := by
  cases h <;> rfl

/-- Without the lock a caller only looks and reads. -/
theorem Next.quiet_of_not_holds (h : p.Next policy c deed p') (hholds : p.holds = false) :
    deed.quiet = true := by
  cases h <;> first
    | rfl
    | cases hholds

theorem Ends.quiet (h : p.Ends policy deed result) : deed.quiet = true := by
  cases h <;> rfl

theorem rank_pos (p : Point) : 0 < p.rank := by
  cases p <;> simp only [rank] <;> first
    | omega
    | (split <;> omega)

theorem Next.rank_lt (h : p.Next policy c deed p') : p'.rank < p.rank := by
  cases h <;> simp [rank] <;> split <;> omega

theorem Next.ne_unlocked (h : p.Next policy c deed p') : deed ≠ .unlocked := by
  cases h <;> nofun

theorem Ends.holds_of_unlocked (h : p.Ends policy .unlocked result) : p.holds = true := by
  cases h
  rfl

theorem holds_of_waiting (h : p.waiting = true) : p.holds = true := by
  cases p <;> first
    | rfl
    | cases h

theorem exists_exchange_of_waiting (h : p.waiting = true) :
    ∃ next, p.task policy c = .exchange (request c) next := by
  cases p with
  | ask waiting =>
      rw [task]
      exact ⟨_, rfl⟩
  | _ => cases h

theorem task_ne_lock_of_holds {next : Bool → Task (Except Failure (Option String))}
    (h : p.holds = true) : p.task policy c ≠ .lock next := by
  cases p with
  | queue => cases h
  | _ => rw [task]; nofun

end Point

end Tokens

end ProgramGuide
