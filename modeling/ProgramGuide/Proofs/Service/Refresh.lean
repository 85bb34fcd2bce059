import ProgramGuide.Proofs.Service.Acquisition
import ProgramGuide.Proofs.Service.Lull
import ProgramGuide.Proofs.Service.Pool

/-!
# Refreshing

Any number of callers acquire tokens from one store, and others may clear it at any
time.  There is never more than one request for a token under way, and none for a user
whose token is in the store and fresh.
-/

namespace ProgramGuide

/-- A call that acquires a token or clears the store. -/
inductive Call.Plain : Call → Prop
  | acquire (c) : Plain (.acquire c)
  | clear : Plain .clear

def System.Waits (s : System) (i : Nat) : Prop :=
  ∃ thread, s.threads[i]? = some thread ∧ thread.waiting = true

namespace Refresh

variable {policy : TokenPolicy} {pool pool' : Pool} {scene : Scene}
variable {trace : List Happening} {user : String} {token : IssuedToken}

/-! ## One request at a time -/

theorem holds_of_waiting {m : Member} (hplain : m.call.Plain) (h : m.waiting = true) :
    m.holds = true := by
  cases m with
  | acquire c point => exact Tokens.Point.holds_of_waiting h
  | send => cases hplain
  | _ => cases h

theorem eq_of_waits (hlock : pool.Disciplined) (hplain : ∀ m ∈ pool.members, m.call.Plain)
    {i j : Nat} (hi : (pool.system policy).Waits i) (hj : (pool.system policy).Waits j) :
    i = j := by
  have hholder {i : Nat} (hi : (pool.system policy).Waits i) : pool.holder = some i := by
    obtain ⟨thread, hthread, hwaiting⟩ := hi
    simp only [Pool.system, List.getElem?_map, Option.map_eq_some_iff] at hthread
    obtain ⟨m, hm, rfl⟩ := hthread
    have hholds := holds_of_waiting (hplain m (List.mem_of_getElem? hm)) hwaiting
    exact (hlock.holds_iff hm).mp hholds
  exact Option.some.inj ((hholder hi).symm.trans (hholder hj))

/-! ## No request while a token is fresh -/

/-- Where a caller may stand while a token for it is in the store.  From there it does not
ask for one as long as that token stays there and is fresh. -/
inductive Served (token : IssuedToken) : Tokens.Point → Prop
  | tokens (held) : Served token (.tokens held)
  | age (other) : Served token (.age false other)
  | ageLocked : Served token (.age true token)
  | rejection : Served token (.rejection false)
  | cooldown (since) : Served token (.cooldown false since)
  | queue : Served token .queue
  | release (result) : Served token (.release result)

theorem Served.of_not_holds {p : Tokens.Point} (h : p.holds = false) : Served token p := by
  cases p with
  | tokens held => exact .tokens held
  | age held other =>
      obtain rfl : held = false := h
      exact .age other
  | rejection held =>
      obtain rfl : held = false := h
      exact .rejection
  | cooldown held since =>
      obtain rfl : held = false := h
      exact .cooldown since
  | queue => exact .queue
  | _ => cases h

theorem Served.next {c : Credentials} {p p' : Tokens.Point} {deed : Deed}
    (h : Served token p) (hnext : p.Next policy c deed p')
    (hget : ∀ store, deed = .looked store → store.get? c.username = some token)
    (hfresh : ∀ now, deed = .read now → TokenStore.isFresh policy token now = true) :
    Served token p' := by
  cases h with
  | tokens held =>
      cases hnext with
      | absent _ hnone =>
          rw [hget _ rfl] at hnone
          cases hnone
      | present _ hsome =>
          rw [hget _ rfl] at hsome
          cases hsome
          cases held with
          | false => exact .age token
          | true => exact .ageLocked
  | age other =>
      cases hnext
      exact .rejection
  | ageLocked =>
      cases hnext with
      | stale _ hstale =>
          rw [hfresh _ rfl] at hstale
          cases hstale
      | fresh => exact .release _
  | rejection =>
      cases hnext with
      | since _ _ => exact .cooldown _
      | never => exact .queue
  | cooldown =>
      cases hnext
      exact .queue
  | queue =>
      cases hnext
      exact .tokens true
  | release => cases hnext

/-- A token is in the store, and none for its user is about to be asked for. -/
structure Settled (user : String) (token : IssuedToken) (between : List Happening)
    (pool : Pool) : Prop where
  get? : pool.scene.store.get? user = some token
  plain : ∀ m ∈ pool.members, m.call.Plain
  served : ∀ (i : Nat) (c : Credentials) (p : Tokens.Point),
    pool.members[i]? = some (.acquire c p) → c.username = user → Served token p
  /-- Who is about to empty the store has been rejected meanwhile. -/
  rejected : ∀ (i : Nat) (c : Credentials), pool.members[i]? = some (.acquire c .drop) →
    ∃ request answer, .did i (.heard request answer) ∈ between ∧
      Tokens.statusOf answer = some 400

/-- The store has been emptied, by a call to clear it or after a rejection. -/
def Emptied (between : List Happening) (call? : Nat → Option Call) : Prop :=
  ∃ i st, .did i (.amended st st.clear) ∈ between ∧
    (call? i = some .clear ∨
      ∃ request answer, .did i (.heard request answer) ∈ between ∧
        Tokens.statusOf answer = some 400)

def Expired (policy : TokenPolicy) (token : IssuedToken) (between : List Happening) : Prop :=
  ∃ i now, .did i (.read now) ∈ between ∧ policy.lifetime ≤ now.since token.issuedAt

variable {between : List Happening} {happening : Happening}

theorem Emptied.concat {call? call?' : Nat → Option Call} (h : Emptied between call?)
    (hcall : ∀ i call, call? i = some call → call?' i = some call) :
    Emptied (between ++ [happening]) call?' := by
  obtain ⟨i, st, hi, hcause⟩ := h
  refine ⟨i, st, List.mem_append_left _ hi, ?_⟩
  obtain hclear | ⟨request, answer, hheard, hstatus⟩ := hcause
  · exact .inl (hcall i _ hclear)
  · exact .inr ⟨request, answer, List.mem_append_left _ hheard, hstatus⟩

theorem Expired.concat (h : Expired policy token between) :
    Expired policy token (between ++ [happening]) := by
  obtain ⟨i, now, hi, hold⟩ := h
  exact ⟨i, now, List.mem_append_left _ hi, hold⟩

theorem Settled.concat (h : Settled user token between pool) :
    Settled user token (between ++ [happening]) pool where
  get? := h.get?
  plain := h.plain
  served := h.served
  rejected i c hi := by
    obtain ⟨request, answer, hheard, hstatus⟩ := h.rejected i c hi
    exact ⟨request, answer, List.mem_append_left _ hheard, hstatus⟩

theorem Settled.begin {call : Call} {m : Member} (h : Settled user token between pool)
    (hcall : call.Plain) (hstart : Member.start? call = some m) :
    Settled user token between { pool with members := pool.members ++ [m] } where
  get? := h.get?
  plain m' hm' := by
    rcases List.mem_append.mp hm' with hm' | hm'
    · exact h.plain m' hm'
    · obtain rfl := List.mem_singleton.mp hm'
      rwa [Member.call_of_start? hstart]
  served j c p hj hc := by
    obtain ⟨-, rfl⟩ | hj := Pool.eq_or_of_getElem?_concat hj
    · exact .of_not_holds (Member.holds_of_start? hstart)
    · exact h.served j c p hj hc
  rejected j c hj := by
    obtain ⟨-, rfl⟩ | hj := Pool.eq_or_of_getElem?_concat hj
    · cases Member.holds_of_start? hstart
    · exact h.rejected j c hj

theorem Settled.set (h : Settled user token between pool) {scene : Scene}
    {holder : Option Nat} {i : Nat} {m : Member}
    (hget : scene.store.get? user = some token) (hplain : m.call.Plain)
    (hserved : ∀ c p, m = .acquire c p → c.username = user → Served token p)
    (hrejected : ∀ c, m = .acquire c .drop →
      ∃ request answer, .did i (.heard request answer) ∈ between ++ [happening] ∧
        Tokens.statusOf answer = some 400) :
    Settled user token (between ++ [happening]) ⟨scene, holder, pool.members.set i m⟩ where
  get? := hget
  plain m' hm' := by
    rcases List.mem_or_eq_of_mem_set hm' with hm' | rfl
    · exact h.plain m' hm'
    · exact hplain
  served j c p hj hc := by
    obtain ⟨-, hm⟩ | ⟨-, hj⟩ := Pool.eq_or_of_getElem?_set hj
    · exact hserved c p hm.symm hc
    · exact h.served j c p hj hc
  rejected j c hj := by
    obtain ⟨rfl, hm⟩ | ⟨-, hj⟩ := Pool.eq_or_of_getElem?_set hj
    · exact hrejected c hm.symm
    · obtain ⟨request, answer, hheard, hstatus⟩ := h.rejected j c hj
      exact ⟨request, answer, List.mem_append_left _ hheard, hstatus⟩

/-- The token stays in the store unless the store is emptied or one for its user stored. -/
theorem get?_scene {c : Credentials} {p p' : Tokens.Point} {deed : Deed}
    {holder : Option Nat} (hnext : p.Next policy c deed p')
    (hallowed : deed.Allowed scene holder) (hget : scene.store.get? user = some token)
    (hdrop : p ≠ .drop) (hkeep : c.username = user → ∀ other, p ≠ .keep other) :
    (deed.scene scene).store.get? user = some token := by
  cases hnext with
  | keep other store =>
      obtain rfl : store = scene.store := hallowed
      have hother : user ≠ c.username := fun h => hkeep h.symm other rfl
      exact TokenStore.get?_insert.trans ((if_neg hother).trans hget)
  | drop => exact absurd rfl hdrop
  | reject now store =>
      obtain rfl : store = scene.store := hallowed
      exact hget
  | _ => exact hget

theorem settled_of_point {i : Nat} {c : Credentials} {p p' : Tokens.Point} {deed : Deed}
    {holder : Option Nat} (h : Settled user token between pool)
    (hi : pool.members[i]? = some (.acquire c p)) (hnext : p.Next policy c deed p')
    (hallowed : deed.Allowed pool.scene pool.holder) (hdrop : p ≠ .drop)
    (hfresh : ∀ now, deed = .read now → TokenStore.isFresh policy token now = true) :
    Settled user token (between ++ [.did i deed])
      ⟨deed.scene pool.scene, holder, pool.members.set i (.acquire c p')⟩ := by
  have hserved : c.username = user → Served token p := h.served i c p hi
  refine h.set ?_ (.acquire c) ?_ ?_
  · refine get?_scene hnext hallowed h.get? hdrop fun hc other hkeep => ?_
    subst hkeep
    cases hserved hc
  · rintro _ _ ⟨⟩ hc
    refine (hserved hc).next hnext (fun store hlooked => ?_) hfresh
    subst hlooked
    obtain rfl : store = pool.scene.store := hallowed
    rw [hc]
    exact h.get?
  · rintro _ ⟨⟩
    cases hnext with
    | @rejected answer failure hverdict hrejection =>
        exact ⟨Tokens.request c, answer, by simp,
          (Tokens.isRejection_iff hverdict).mp hrejection⟩

/-- While nothing is done to the store and the token is fresh, none is asked for. -/
theorem settled_or_of_happens (hnext : pool.Happens policy happening pool')
    (hplain : ∀ call, happening = .begun call → call.Plain)
    (h : Settled user token between pool) :
    Settled user token (between ++ [happening]) pool' ∨
      Emptied (between ++ [happening]) pool'.call? ∨
      Expired policy token (between ++ [happening]) := by
  cases hnext with
  | elapse now => exact .inl { h.concat with get? := h.get? }
  | begin hstart => exact .inl (h.begin (hplain _ rfl) hstart).concat
  | @act i m m' deed hi hnext hallowed =>
      by_cases hold : ∃ now, deed = .read now ∧ TokenStore.isFresh policy token now = false
      · obtain ⟨now, rfl, hold⟩ := hold
        exact .inr (.inr ⟨i, now, by simp, TokenStore.isFresh_eq_false_iff.mp hold⟩)
      have hfresh (now : Instant) (hnow : deed = .read now) :
          TokenStore.isFresh policy token now = true := by
        rw [← Bool.not_eq_false]
        exact fun hstale => hold ⟨now, hnow, hstale⟩
      have hlt : i < pool.members.length := (List.getElem?_eq_some_iff.mp hi).1
      have hcall := h.plain m (List.mem_of_getElem? hi)
      cases hnext with
      | @acquire c p _ p' hp =>
          by_cases hdrop : p = .drop
          · subst hdrop
            cases hp with
            | drop store =>
                obtain ⟨request, answer, hheard, hstatus⟩ := h.rejected i c hi
                exact .inr (.inl ⟨i, store, by simp,
                  .inr ⟨request, answer, List.mem_append_left _ hheard, hstatus⟩⟩)
          · exact .inl (settled_of_point h hi hp hallowed hdrop hfresh)
      | @acquired c p _ result hp =>
          refine .inl (h.set ?_ hcall (fun _ _ hm => ?_) (fun _ hm => ?_))
          · cases hp <;> exact h.get?
          · cases hm
          · cases hm
      | clear store =>
          refine .inr (.inl ⟨i, store, by simp, .inl ?_⟩)
          simp [Pool.call?, List.getElem?_set_self hlt, Member.call]
      | send => cases hcall
      | sent => cases hcall

theorem settled_or_of_run (hrun : pool.Run policy between pool')
    (hplain : ∀ call, .begun call ∈ between → call.Plain)
    (h : Settled user token [] pool) :
    Settled user token between pool' ∨ Emptied between pool'.call? ∨
      Expired policy token between := by
  induction hrun with
  | nil => exact .inl h
  | @concat between happening pool₁ pool₂ _ hnext ih =>
      obtain hsettled | hemptied | hexpired :=
        ih fun call hcall => hplain call (List.mem_append_left _ hcall)
      · refine settled_or_of_happens hnext (fun call hcall => hplain call ?_) hsettled
        simp [hcall]
      · exact .inr (.inl (hemptied.concat fun _ _ => hnext.call?_eq))
      · exact .inr (.inr hexpired.concat)

theorem release_of_insert {m m' : Member} {st : TokenStore}
    (hnext : m.Next policy (.amended st (st.insert user token)) m') (hplain : m'.call.Plain) :
    ∃ c result, m' = .acquire c (.release result) := by
  have hne : st.clear ≠ st.insert user token := by
    intro h
    cases congrArg TokenStore.tokens h
  generalize hdeed : Deed.amended st (st.insert user token) = deed at hnext
  cases hnext with
  | acquire hp =>
      cases hp with
      | keep => exact ⟨_, _, rfl⟩
      | reject => exact ⟨_, _, rfl⟩
      | drop store =>
          injection hdeed with hstore hclear
          subst hstore
          exact absurd hclear.symm hne
      | _ => cases hdeed
  | acquired hp => cases hp <;> cases hdeed
  | clear store =>
      injection hdeed with hstore hclear
      subst hstore
      exact absurd hclear.symm hne
  | send => cases hplain
  | sent => cases hplain

/-- Right after a token has been stored no other caller is under the lock. -/
theorem settled_of_insert {i : Nat} {st : TokenStore}
    (hnext : pool.Happens policy (.did i (.amended st (st.insert user token))) pool')
    (hplain : ∀ m ∈ pool'.members, m.call.Plain) (hlock : pool'.Disciplined) :
    Settled user token [] pool' := by
  cases hnext with
  | @act _ m m' _ hi hnext hallowed =>
  have hlt : i < pool.members.length := (List.getElem?_eq_some_iff.mp hi).1
  have hi' : (pool.members.set i m')[i]? = some m' := List.getElem?_set_self hlt
  obtain ⟨c, result, rfl⟩ := release_of_insert hnext (hplain m' (List.mem_of_getElem? hi'))
  have hrelease : ∀ (j : Nat) (c' : Credentials) (p : Tokens.Point),
      (pool.members.set i (.acquire c (.release result)))[j]? = some (.acquire c' p) →
      p.holds = true → p = .release result := by
    intro j c' p hj hholds
    obtain rfl : j = i := hlock.eq_of_holds hj hi' hholds rfl
    rw [hi'] at hj
    cases hj
    rfl
  refine ⟨TokenStore.get?_insert.trans (if_pos rfl), hplain, ?_, ?_⟩
  · intro j c' p hj _
    cases hholds : p.holds with
    | false => exact .of_not_holds hholds
    | true =>
        rw [hrelease j c' p hj hholds]
        exact .release result
  · intro j c' hj
    cases hrelease j c' .drop hj rfl

theorem Settled.not_asks {provider : Provider} (h : Settled user token between pool)
    {i : Nat} {c : Credentials} {request : Request} (hc : c.username = user) :
    ¬(pool.system provider.policy).Asks i (.acquire c) request := by
  rintro ⟨next, hi⟩
  simp only [Pool.system, List.getElem?_map, Option.map_eq_some_iff] at hi
  obtain ⟨m, hm, hthread⟩ := hi
  cases m with
  | acquire c' p =>
      obtain ⟨hcall, htask, -⟩ := Thread.mk.inj hthread
      cases hcall
      have hserved := h.served i c p hm hc
      obtain ⟨next', hexchange⟩ := Task.exists_exchange_of_bind p.task_ne_done htask
      cases hserved <;> rw [Tokens.Point.task] at hexchange <;> cases hexchange
  | ended call result =>
      obtain ⟨-, htask, -⟩ := Thread.mk.inj hthread
      cases htask
  | _ => cases (Thread.mk.inj hthread).1

end Refresh

end ProgramGuide
