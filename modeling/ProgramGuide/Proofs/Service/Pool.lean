import ProgramGuide.Proofs.Service.Place

/-!
# Pools

A system without errands, seen by where its threads stand.  A thread stands under the
refresh lock if and only if it has the lock.
-/

namespace ProgramGuide

inductive Member where
  | acquire (c : Credentials) (point : Tokens.Point)
  | clear
  | send (retryAllowed : Bool) (c : Credentials) (request : Request)
      (place : Transport.Place)
  | ended (call : Call) (result : Except Failure Answer)
  deriving DecidableEq

namespace Member

def call : Member → Call
  | acquire c _ => .acquire c
  | clear => .clear
  | send retryAllowed c request _ => .send retryAllowed c request
  | ended call _ => call

def holds : Member → Bool
  | acquire _ point => point.holds
  | send _ _ _ place => place.holds
  | _ => false

def waiting : Member → Bool
  | acquire _ point => point.waiting
  | send _ _ _ place => place.waiting
  | _ => false

def task (policy : TokenPolicy) : Member → Task (Except Failure Answer)
  | acquire c point =>
      (point.task policy c).bind fun result => .done (result.map .token)
  | clear => .amend TokenStore.clear (.done (.ok .done))
  | send retryAllowed c request place =>
      (place.task policy retryAllowed c request).bind fun result =>
        .done (result.map .response)
  | ended _ result => .done result

def thread (policy : TokenPolicy) (m : Member) : Thread :=
  ⟨m.call, m.task policy, m.waiting⟩

/-- Where a call begins; errands are left out. -/
def start? : Call → Option Member
  | .acquire c =>
      some
        (if c.isComplete then acquire c (.tokens false)
        else ended (.acquire c) (.ok (.token none)))
  | .clear => some clear
  | .send retryAllowed c request => some (send retryAllowed c request (.start request))
  | .errand _ => none

inductive Next (policy : TokenPolicy) : Member → Deed → Member → Prop
  | acquire {c point deed point'} (h : point.Next policy c deed point') :
      Next policy (acquire c point) deed (acquire c point')
  | acquired {c point deed result} (h : point.Ends policy deed result) :
      Next policy (acquire c point) deed (ended (.acquire c) (result.map .token))
  | clear (store) :
      Next policy clear (.amended store store.clear) (ended .clear (.ok .done))
  | send {retryAllowed c request place deed place'}
      (h : place.Next policy retryAllowed c request deed place') :
      Next policy (send retryAllowed c request place) deed
        (send retryAllowed c request place')
  | sent {retryAllowed c request place deed result}
      (h : place.Ends policy retryAllowed c deed result) :
      Next policy (send retryAllowed c request place) deed
        (ended (.send retryAllowed c request) (result.map .response))

variable {policy : TokenPolicy} {m m' : Member} {deed : Deed}

theorem Next.call_eq (h : m.Next policy deed m') : m'.call = m.call := by
  cases h <;> rfl

theorem call_of_start? {call : Call} (h : start? call = some m) : m.call = call := by
  cases call with
  | acquire c =>
      cases h
      cases c.isComplete <;> rfl
  | errand e => cases h
  | _ =>
      cases h
      rfl

theorem thread_of_start? {provider : Provider} {call : Call} (h : start? call = some m) :
    m.thread provider.policy = ⟨call, (call.operation provider).run, false⟩ := by
  cases call with
  | acquire c =>
      have hrun : ((Call.acquire c).operation provider).run =
          (Tokens.acquire provider.policy c).run.bind fun result =>
            .done (result.map .token) :=
        congrArg (Task.bind _) (funext fun result => by cases result <;> rfl)
      rw [hrun, Tokens.acquire_run]
      cases h
      cases c.isComplete <;> rfl
  | clear =>
      cases h
      rfl
  | send retryAllowed c request =>
      have hrun : ((Call.send retryAllowed c request).operation provider).run =
          (Transport.send provider.policy retryAllowed c request).run.bind fun result =>
            .done (result.map .response) :=
        congrArg (Task.bind _) (funext fun result => by cases result <;> rfl)
      rw [hrun, Transport.send_run]
      cases h
      unfold Transport.Place.start
      cases request.token.isSome <;> rfl
  | errand e => cases h

theorem next_of_does {t : Task (Except Failure Answer)} {waiting : Bool}
    (h : (m.task policy).Does m.waiting deed t waiting) :
    ∃ m' : Member, m.Next policy deed m' ∧ m'.thread policy = ⟨m.call, t, waiting⟩ := by
  cases m with
  | acquire c point =>
      obtain ⟨t', rfl, hdoes⟩ := Task.Does.of_bind point.task_ne_done h
      obtain ⟨point', hnext, rfl, rfl⟩ | ⟨result, hends, rfl, rfl⟩ :=
        Tokens.Point.next_or_ends_of_does hdoes
      · exact ⟨_, .acquire hnext, rfl⟩
      · exact ⟨_, .acquired hends, rfl⟩
  | clear =>
      cases h with
      | amend _ _ store => exact ⟨_, .clear store, rfl⟩
  | send retryAllowed c request place =>
      obtain ⟨t', rfl, hdoes⟩ := Task.Does.of_bind place.task_ne_done h
      obtain ⟨place', hnext, rfl, rfl⟩ | ⟨result, hends, rfl, rfl⟩ :=
        Transport.Place.next_or_ends_of_does hdoes
      · exact ⟨_, .send hnext, rfl⟩
      · exact ⟨_, .sent hends, rfl⟩
  | ended call result => cases h

/-! ### The lock -/

theorem holds_of_start? {call : Call} (h : start? call = some m) : m.holds = false := by
  cases call with
  | acquire c =>
      cases h
      cases c.isComplete <;> rfl
  | clear =>
      cases h
      rfl
  | send retryAllowed c request =>
      cases h
      unfold holds Transport.Place.start
      cases request.token.isSome <;> rfl
  | errand e => cases h

theorem Next.holds_eq (h : m.Next policy deed m') : m'.holds = deed.held m.holds := by
  cases h with
  | acquire h => exact h.holds_eq
  | acquired h => exact h.released.symm
  | clear => rfl
  | send h => exact h.holds_eq
  | sent h => exact h.released.symm

theorem Next.holds_of_unlocked (h : m.Next policy .unlocked m') : m.holds = true := by
  cases h with
  | acquire h => exact absurd rfl h.ne_unlocked
  | acquired h => exact h.holds_of_unlocked
  | send h => exact h.holds_of_unlocked
  | sent h => exact h.holds_of_unlocked

/-! ### Progress -/

def rank : Member → Nat
  | acquire _ point => point.rank
  | clear => 1
  | send _ _ _ place => place.rank
  | ended _ _ => 0

theorem rank_le_of_start? {call : Call} (h : start? call = some m) : m.rank ≤ 22 := by
  cases call with
  | acquire c =>
      cases h
      cases c.isComplete <;> simp [rank, Tokens.Point.rank]
  | clear =>
      cases h
      decide
  | send retryAllowed c request =>
      cases h
      unfold rank Transport.Place.start
      cases request.token.isSome <;> simp [Transport.Place.rank]
  | errand e => cases h

theorem Next.rank_lt (h : m.Next policy deed m') : m'.rank < m.rank := by
  cases h with
  | acquire h => exact h.rank_lt
  | @acquired _ point => exact point.rank_pos
  | clear => decide
  | send h => exact h.rank_lt
  | @sent _ _ _ place => exact place.rank_pos

theorem exists_exchange_of_waiting (h : m.waiting = true) :
    ∃ request next, m.task policy = .exchange request next := by
  cases m with
  | acquire c point =>
      obtain ⟨next, hnext⟩ := Tokens.Point.exists_exchange_of_waiting h
      exact ⟨_, _, congrArg (Task.bind · _) hnext⟩
  | send retryAllowed c request place =>
      obtain ⟨sent, next, hnext⟩ := Transport.Place.exists_exchange_of_waiting h
      exact ⟨_, _, congrArg (Task.bind · _) hnext⟩
  | _ => cases h

theorem task_ne_lock_of_holds {next : Bool → Task (Except Failure Answer)}
    (h : m.holds = true) : m.task policy ≠ .lock next := by
  cases m with
  | acquire c point =>
      exact Task.bind_ne_lock point.task_ne_done
        (fun _ => Tokens.Point.task_ne_lock_of_holds h) next
  | send retryAllowed c request place =>
      exact Task.bind_ne_lock place.task_ne_done
        (fun _ => Transport.Place.task_ne_lock_of_holds h) next
  | _ => cases h

theorem task_ne_done_of_holds {result : Except Failure Answer} (h : m.holds = true) :
    m.task policy ≠ .done result := by
  cases m with
  | acquire c point => exact Task.bind_ne_done point.task_ne_done result
  | send retryAllowed c request place => exact Task.bind_ne_done place.task_ne_done result
  | _ => cases h

theorem exists_ended_of_done {result : Except Failure Answer}
    (h : m.task policy = .done result) : ∃ call, m = ended call result := by
  cases m with
  | acquire c point => exact absurd h (Task.bind_ne_done point.task_ne_done result)
  | send retryAllowed c request place =>
      exact absurd h (Task.bind_ne_done place.task_ne_done result)
  | clear => cases h
  | ended call =>
      cases h
      exact ⟨call, rfl⟩

end Member

structure Pool where
  scene : Scene
  holder : Option Nat
  members : List Member

namespace Pool

def idle (scene : Scene) : Pool := ⟨scene, none, []⟩

def system (policy : TokenPolicy) (pool : Pool) : System :=
  ⟨pool.scene, pool.holder, pool.members.map (·.thread policy)⟩

inductive Happens (policy : TokenPolicy) : Pool → Happening → Pool → Prop
  | elapse (pool : Pool) (now : Instant) :
      Happens policy pool (.elapsed now) { pool with scene := { pool.scene with now } }
  | begin (pool : Pool) {call : Call} {m : Member} (h : Member.start? call = some m) :
      Happens policy pool (.begun call) { pool with members := pool.members ++ [m] }
  | act {pool : Pool} {i : Nat} {m m' : Member} {deed : Deed}
      (hi : pool.members[i]? = some m) (h : m.Next policy deed m')
      (hallowed : deed.Allowed pool.scene pool.holder) :
      Happens policy pool (.did i deed)
        ⟨deed.scene pool.scene, deed.holder i pool.holder, pool.members.set i m'⟩

def Run (policy : TokenPolicy) : Pool → List Happening → Pool → Prop :=
  Trail (Happens policy)

variable {policy : TokenPolicy} {pool pool' : Pool} {happening : Happening}

theorem happens_of_system {provider : Provider} {s : System}
    (h : (pool.system provider.policy).Happens provider happening s)
    (hplain : ∀ e, happening ≠ .begun (.errand e)) :
    ∃ pool', pool.Happens provider.policy happening pool' ∧
      s = pool'.system provider.policy := by
  cases h with
  | elapse now => exact ⟨_, .elapse pool now, rfl⟩
  | begin call =>
      cases hstart : Member.start? call with
      | none =>
          cases call with
          | errand e => exact absurd rfl (hplain e)
          | _ => cases hstart
      | some m =>
          refine ⟨_, .begin pool hstart, ?_⟩
          simp [system, Member.thread_of_start? hstart]
  | @act i call task task' waiting waiting' deed hi hdoes hallowed =>
      obtain ⟨m, hm, hthread⟩ := List.getElem?_map .. ▸ hi |> Option.map_eq_some_iff.mp
      cases hthread
      obtain ⟨m', hnext, hthread⟩ := Member.next_of_does hdoes
      refine ⟨_, .act hm hnext hallowed, ?_⟩
      simp [system, List.map_set, hthread]

/-- A run of a system without errands is one of its pool. -/
theorem run_of_system (pool : Pool) {provider : Provider} {s : System}
    {trace : List Happening} (h : System.Run provider (pool.system provider.policy) trace s)
    (hplain : ∀ e, .begun (.errand e) ∉ trace) :
    ∃ pool', pool.Run provider.policy trace pool' ∧ s = pool'.system provider.policy := by
  induction h with
  | nil => exact ⟨pool, .nil, rfl⟩
  | @concat trace happening s₁ s₂ _ hnext ih =>
      obtain ⟨pool₁, hrun, rfl⟩ := ih fun e he => hplain e (List.mem_append_left _ he)
      obtain ⟨pool₂, hhappens, rfl⟩ := happens_of_system hnext fun e he =>
        hplain e (by simp [he])
      exact ⟨pool₂, hrun.concat hhappens, rfl⟩

theorem eq_or_of_getElem?_set {l : List α} {i j : Nat} {a b : α}
    (h : (l.set i a)[j]? = some b) : j = i ∧ b = a ∨ j ≠ i ∧ l[j]? = some b := by
  by_cases hij : j = i
  · subst hij
    have hlt : j < l.length := by
      simpa using (List.getElem?_eq_some_iff.mp h).1
    rw [List.getElem?_set_self hlt] at h
    exact .inl ⟨rfl, (Option.some.inj h).symm⟩
  · rw [List.getElem?_set_ne (Ne.symm hij)] at h
    exact .inr ⟨hij, h⟩

theorem eq_or_of_getElem?_concat {l : List α} {j : Nat} {a b : α}
    (h : (l ++ [a])[j]? = some b) : j = l.length ∧ b = a ∨ l[j]? = some b := by
  rcases Nat.lt_trichotomy j l.length with hj | hj | hj
  · rw [List.getElem?_append_left hj] at h
    exact .inr h
  · subst hj
    rw [List.getElem?_concat_length] at h
    exact .inl ⟨rfl, (Option.some.inj h).symm⟩
  · rw [List.getElem?_eq_none (by simp; omega)] at h
    cases h

def call? (pool : Pool) (i : Nat) : Option Call := pool.members[i]?.map (·.call)

theorem Happens.exists_member (h : pool.Happens policy happening pool') {i : Nat} {m : Member}
    (hi : pool.members[i]? = some m) : ∃ m', pool'.members[i]? = some m' ∧ m'.call = m.call := by
  have hlt : i < pool.members.length := (List.getElem?_eq_some_iff.mp hi).1
  cases h with
  | elapse => exact ⟨m, hi, rfl⟩
  | begin => exact ⟨m, by rwa [List.getElem?_append_left hlt], rfl⟩
  | @act j m₁ m₂ _ hj hnext =>
      by_cases hij : i = j
      · subst hij
        obtain rfl : m = m₁ := Option.some.inj (hi.symm.trans hj)
        exact ⟨m₂, List.getElem?_set_self hlt, hnext.call_eq⟩
      · exact ⟨m, by rwa [List.getElem?_set_ne (Ne.symm hij)], rfl⟩

theorem Happens.call?_eq (h : pool.Happens policy happening pool') {i : Nat} {call : Call}
    (hi : pool.call? i = some call) : pool'.call? i = some call := by
  obtain ⟨m, hm, rfl⟩ := Option.map_eq_some_iff.mp hi
  obtain ⟨m', hm', hcall⟩ := h.exists_member hm
  rw [call?, hm', Option.map_some, hcall]

theorem begun_of_mem {scene : Scene} {trace : List Happening}
    (h : (idle scene).Run policy trace pool) {m : Member} (hm : m ∈ pool.members) :
    .begun m.call ∈ trace := by
  induction h generalizing m with
  | nil => cases hm
  | concat _ hnext ih =>
      cases hnext with
      | elapse => exact List.mem_append_left _ (ih hm)
      | begin hstart =>
          rcases List.mem_append.mp hm with hm | hm
          · exact List.mem_append_left _ (ih hm)
          · obtain rfl := List.mem_singleton.mp hm
            rw [Member.call_of_start? hstart]
            simp
      | act hi hnext =>
          rcases List.mem_or_eq_of_mem_set hm with hm | rfl
          · exact List.mem_append_left _ (ih hm)
          · rw [hnext.call_eq]
            exact List.mem_append_left _ (ih (List.mem_of_getElem? hi))

/-! ## The lock -/

/-- Whoever has the lock stands under it, and no one else does. -/
def Disciplined (pool : Pool) : Prop :=
  ∀ i, pool.holder = some i ↔ ∃ m, pool.members[i]? = some m ∧ m.holds = true

theorem Disciplined.holds_iff (h : pool.Disciplined) {i : Nat} {m : Member}
    (hi : pool.members[i]? = some m) : m.holds = true ↔ pool.holder = some i := by
  rw [h i]
  simp [hi]

theorem Disciplined.eq_of_holds (h : pool.Disciplined) {i j : Nat} {m m' : Member}
    (hi : pool.members[i]? = some m) (hj : pool.members[j]? = some m')
    (hm : m.holds = true) (hm' : m'.holds = true) : i = j :=
  Option.some.inj (((h.holds_iff hi).mp hm).symm.trans ((h.holds_iff hj).mp hm'))

theorem disciplined_idle (scene : Scene) : (idle scene).Disciplined := by
  intro i
  simp [idle]

theorem Happens.disciplined (h : pool.Happens policy happening pool')
    (hlock : pool.Disciplined) : pool'.Disciplined := by
  cases h with
  | elapse => exact hlock
  | @begin call m hstart =>
      have hm : m.holds = false := Member.holds_of_start? hstart
      intro i
      rw [hlock i]
      dsimp only
      by_cases hi : i < pool.members.length
      · rw [List.getElem?_append_left hi]
      · have hnone : pool.members[i]? = none := List.getElem?_eq_none (by omega)
        simp only [hnone, List.getElem?_append_right (Nat.le_of_not_lt hi)]
        constructor
        · rintro ⟨_, ⟨⟩, _⟩
        · rintro ⟨m₁, hm₁, hholds⟩
          obtain rfl : m₁ = m := by simpa using List.mem_of_getElem? hm₁
          rw [hm] at hholds
          cases hholds
  | @act i m m' deed hi hnext hallowed =>
      have hlt : i < pool.members.length := (List.getElem?_eq_some_iff.mp hi).1
      have hm := hlock.holds_iff hi
      intro j
      by_cases hij : j = i
      · subst hij
        have hset : (∃ m₁, (pool.members.set j m')[j]? = some m₁ ∧ m₁.holds = true) ↔
            m'.holds = true := by
          simp [List.getElem?_set_self hlt]
        rw [hset, hnext.holds_eq]
        cases deed <;> first
          | exact hm.symm
          | simp [Deed.holder, Deed.held]
      · rw [List.getElem?_set_ne (Ne.symm hij), ← hlock j]
        cases deed <;> try rfl
        case locked =>
          have hnone : pool.holder = none := hallowed
          simp [Deed.holder, hnone, Ne.symm hij]
        case unlocked =>
          have hself := hm.mp hnext.holds_of_unlocked
          simp [Deed.holder, hself, Ne.symm hij]

theorem disciplined_of_run {scene : Scene} {trace : List Happening}
    (h : (idle scene).Run policy trace pool) : pool.Disciplined := by
  induction h with
  | nil => exact disciplined_idle scene
  | concat _ hnext ih => exact hnext.disciplined ih

/-! ## Progress -/

def steps : List Member → Nat
  | [] => 0
  | m :: members => m.rank + steps members

theorem steps_concat (members : List Member) (m : Member) :
    steps (members ++ [m]) = steps members + m.rank := by
  induction members with
  | nil => simp [steps]
  | cons head members ih =>
      rw [List.cons_append, steps, steps, ih]
      omega

theorem steps_set_lt {members : List Member} {i : Nat} {m m' : Member}
    (hi : members[i]? = some m) (h : m'.rank < m.rank) :
    steps (members.set i m') < steps members := by
  induction members generalizing i with
  | nil => cases hi
  | cons head members ih =>
      cases i with
      | zero =>
          cases hi
          simpa [steps] using h
      | succ i => simpa [steps] using ih (by simpa using hi)

/-- No call takes more than a bounded number of steps. -/
theorem countP_isDeed_le {scene : Scene} {trace : List Happening}
    (h : (idle scene).Run policy trace pool) :
    trace.countP Happening.isDeed + steps pool.members ≤ 22 * pool.members.length := by
  induction h with
  | nil => exact Nat.le_refl 0
  | @concat trace happening pool₁ pool₂ _ hnext ih =>
      rw [List.countP_append]
      cases hnext with
      | elapse => exact ih
      | @begin call m hstart =>
          have hrank := Member.rank_le_of_start? hstart
          have hzero : [Happening.begun call].countP Happening.isDeed = 0 := rfl
          rw [hzero, steps_concat, List.length_append, List.length_singleton]
          omega
      | @act i m m' deed hi hnext =>
          have hlt := steps_set_lt hi hnext.rank_lt
          have hone : [Happening.did i deed].countP Happening.isDeed = 1 := rfl
          rw [hone, List.length_set]
          dsimp only
          omega

/-- As long as some call is not over, some thread can go on. -/
theorem exists_happens {provider : Provider} (hlock : pool.Disciplined) {m : Member}
    (hm : m ∈ pool.members) (hover : ∀ result, m.task provider.policy ≠ .done result) :
    ∃ i deed s, deed.givesUp = false ∧
      (pool.system provider.policy).Happens provider (.did i deed) s := by
  have hact {i : Nat} {m : Member} (hi : pool.members[i]? = some m)
      (hover : ∀ result, m.task provider.policy ≠ .done result)
      (hfree : ∀ next, m.task provider.policy = .lock next → pool.holder = none) :
      ∃ i deed s, deed.givesUp = false ∧
        (pool.system provider.policy).Happens provider (.did i deed) s := by
    obtain ⟨deed, t, waiting, hdoes, hallowed, hpatient⟩ :=
      Task.exists_does pool.scene hover Member.exists_exchange_of_waiting hfree
    have hthread : (pool.system provider.policy).threads[i]? =
        some ⟨m.call, m.task provider.policy, m.waiting⟩ := by
      simp [system, hi, Member.thread]
    exact ⟨i, deed, _, hpatient, .act hthread hdoes hallowed⟩
  cases hholder : pool.holder with
  | none =>
      obtain ⟨i, hi⟩ := List.mem_iff_getElem?.mp hm
      exact hact hi hover fun _ _ => hholder
  | some j =>
      obtain ⟨m', hj, hholds⟩ := (hlock j).mp hholder
      refine hact hj (fun _ => Member.task_ne_done_of_holds hholds) fun next hnext => ?_
      exact absurd hnext (Member.task_ne_lock_of_holds hholds)

end Pool

end ProgramGuide
