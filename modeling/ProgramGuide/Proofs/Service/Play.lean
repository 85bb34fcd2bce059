import ProgramGuide.Service.Script

/-!
# Plays

A task played alone, against whatever the outside does: each time it reads the clock,
waits for the lock or exchanges a message, it meets the next moment.  The relation `Runs`
says the same of one finished run by the events in it.
-/

namespace ProgramGuide

instance decidableEqExcept [DecidableEq ε] [DecidableEq α] : DecidableEq (Except ε α)
  | .ok a, .ok b =>
      if h : a = b then isTrue (congrArg Except.ok h) else isFalse fun hok => h (by cases hok; rfl)
  | .error a, .error b =>
      if h : a = b then isTrue (congrArg Except.error h)
      else isFalse fun herror => h (by cases herror; rfl)
  | .ok _, .error _ => isFalse nofun
  | .error _, .ok _ => isFalse nofun

structure Moment where
  now : Instant
  cancelled : Bool
  answer : Except Failure Response
  deriving DecidableEq

abbrev Outside := Nat → Moment

namespace Outside

def after (o : Outside) (n : Nat) : Outside := fun i => o (i + n)

theorem after_after (o : Outside) (m n : Nat) : (o.after m).after n = o.after (n + m) := by
  funext i
  simp only [after, Nat.add_assoc]

def cons (moment : Moment) (o : Outside) : Outside
  | 0 => moment
  | n + 1 => o n

theorem after_cons (moment : Moment) (o : Outside) : (cons moment o).after 1 = o := rfl

end Outside

inductive Event where
  | read (now : Instant)
  | wait (held : Bool)
  /-- A request is sent unless the caller has cancelled before. -/
  | exchange (request : Request) (sent : Bool) (result : Except Failure Response)
  deriving DecidableEq

structure Played (α : Type) where
  result : α
  store : TokenStore
  events : List Event

namespace Played

def prepend (event : Event) (p : Played α) : Played α :=
  { p with events := event :: p.events }

@[simp] theorem prepend_result (event : Event) (p : Played α) :
    (p.prepend event).result = p.result :=
  rfl

@[simp] theorem prepend_store (event : Event) (p : Played α) :
    (p.prepend event).store = p.store :=
  rfl

@[simp] theorem prepend_events (event : Event) (p : Played α) :
    (p.prepend event).events = event :: p.events :=
  rfl

end Played

namespace Task

def play : Task α → TokenStore → Outside → Played α
  | done a, store, _ => ⟨a, store, []⟩
  | clock next, store, o =>
      ((next (o 0).now).play store (o.after 1)).prepend (.read (o 0).now)
  | inspect next, store, o => (next store).play store o
  | amend change next, store, o => next.play (change store) o
  | lock next, store, o =>
      ((next !(o 0).cancelled).play store (o.after 1)).prepend (.wait !(o 0).cancelled)
  | unlock next, store, o => next.play store o
  | exchange request next, store, o =>
      if (o 0).cancelled then
        ((next (.error .cancelled)).play store (o.after 1)).prepend
          (.exchange request false (.error .cancelled))
      else
        ((next (o 0).answer).play store (o.after 1)).prepend
          (.exchange request true (o 0).answer)

theorem play_bind (t : Task α) (f : α → Task β) (store : TokenStore) (o : Outside) :
    (t.bind f).play store o =
      let first := t.play store o
      let rest := (f first.result).play first.store (o.after first.events.length)
      ⟨rest.result, rest.store, first.events ++ rest.events⟩ := by
  induction t generalizing store o with
  | done a => rfl
  | clock next ih =>
      simp only [Task.bind, play, ih, Outside.after_after, Played.prepend, List.length_cons,
        List.cons_append]
  | inspect next ih => exact ih store store o
  | amend change next ih => exact ih (change store) o
  | lock next ih =>
      simp only [Task.bind, play, ih, Outside.after_after, Played.prepend, List.length_cons,
        List.cons_append]
  | unlock next ih => exact ih store o
  | exchange request next ih =>
      simp only [Task.bind, play]
      split <;>
        simp only [ih, Outside.after_after, Played.prepend, List.length_cons,
          List.cons_append]

/-- A play depends on no more moments than it has events. -/
theorem play_congr (t : Task α) (store : TokenStore) {o o' : Outside}
    (h : ∀ n < (t.play store o).events.length, o n = o' n) :
    t.play store o = t.play store o' := by
  have hnext {u : Task α} {store : TokenStore} {o o' : Outside} {event : Event}
      (hu : ∀ {o o' : Outside}, (∀ n < (u.play store o).events.length, o n = o' n) →
        u.play store o = u.play store o')
      (h : ∀ n < ((u.play store (o.after 1)).prepend event).events.length, o n = o' n) :
      u.play store (o.after 1) = u.play store (o'.after 1) := by
    refine hu fun n hn => h (n + 1) ?_
    rw [Played.prepend_events, List.length_cons]
    omega
  induction t generalizing store o o' with
  | done a => rfl
  | clock next ih =>
      have hfirst : o 0 = o' 0 := h 0 (by simp [play])
      simp only [play] at h ⊢
      rw [← hfirst, hnext (ih _ store) h]
  | inspect next ih => exact ih store store h
  | amend change next ih => exact ih (change store) h
  | lock next ih =>
      have hfirst : o 0 = o' 0 := h 0 (by simp [play])
      simp only [play] at h ⊢
      rw [← hfirst, hnext (ih _ store) h]
  | unlock next ih => exact ih store h
  | exchange request next ih =>
      have hfirst : o 0 = o' 0 := by
        refine h 0 ?_
        simp only [play]
        split <;> simp
      simp only [play] at h ⊢
      rw [← hfirst]
      split at h
      next hcancelled => rw [if_pos hcancelled, if_pos hcancelled, hnext (ih _ store) h]
      next hcancelled => rw [if_neg hcancelled, if_neg hcancelled, hnext (ih _ store) h]

/-! ## Finished runs -/

inductive Runs : Task α → TokenStore → List Event → α → TokenStore → Prop
  | done (a store) : Runs (.done a) store [] a store
  | clock {next store events a store'} (now)
      (h : Runs (next now) store events a store') :
      Runs (.clock next) store (.read now :: events) a store'
  | inspect {next store events a store'} (h : Runs (next store) store events a store') :
      Runs (.inspect next) store events a store'
  | amend {change next store events a store'}
      (h : Runs next (change store) events a store') :
      Runs (.amend change next) store events a store'
  | lock {next store events a store'} (held)
      (h : Runs (next held) store events a store') :
      Runs (.lock next) store (.wait held :: events) a store'
  | unlock {next store events a store'} (h : Runs next store events a store') :
      Runs (.unlock next) store events a store'
  | exchange {request next store events a store'} (sent result)
      (hsent : sent = false → result = .error .cancelled)
      (h : Runs (next result) store events a store') :
      Runs (.exchange request next) store (.exchange request sent result :: events) a store'

theorem play_runs (t : Task α) (store : TokenStore) (o : Outside) :
    t.Runs store (t.play store o).events (t.play store o).result
      (t.play store o).store := by
  induction t generalizing store o with
  | done a => exact .done a store
  | clock next ih => exact .clock _ (ih _ store _)
  | inspect next ih => exact .inspect (ih store store o)
  | amend change next ih => exact .amend (ih (change store) o)
  | lock next ih => exact .lock _ (ih _ store _)
  | unlock next ih => exact .unlock (ih store o)
  | exchange request next ih =>
      simp only [play]
      split
      · exact .exchange false _ (fun _ => rfl) (ih _ store _)
      · exact .exchange true _ (fun h => by cases h) (ih _ store _)

private theorem Runs.bind {t : Task α} {f : α → Task β} {store store₁ store' : TokenStore}
    {first rest : List Event} {a : α} {b : β} (h : t.Runs store first a store₁)
    (hf : (f a).Runs store₁ rest b store') :
    (t.bind f).Runs store (first ++ rest) b store' := by
  induction h with
  | done => exact hf
  | clock now _ ih => exact .clock now (ih hf)
  | inspect _ ih => exact .inspect (ih hf)
  | amend _ ih => exact .amend (ih hf)
  | lock held _ ih => exact .lock held (ih hf)
  | unlock _ ih => exact .unlock (ih hf)
  | exchange sent result hsent _ ih => exact .exchange sent result hsent (ih hf)

private theorem Runs.of_bind {t : Task α} {f : α → Task β} {store store' : TokenStore}
    {events : List Event} {b : β} (h : (t.bind f).Runs store events b store') :
    ∃ first rest a store₁, events = first ++ rest ∧ t.Runs store first a store₁ ∧
      (f a).Runs store₁ rest b store' := by
  induction t generalizing store events with
  | done a => exact ⟨[], events, a, store, rfl, .done a store, h⟩
  | clock next ih =>
      cases h with
      | clock now h =>
          obtain ⟨first, rest, a, store₁, rfl, hfirst, hrest⟩ := ih now h
          exact ⟨_, rest, a, store₁, rfl, .clock now hfirst, hrest⟩
  | inspect next ih =>
      cases h with
      | inspect h =>
          obtain ⟨first, rest, a, store₁, rfl, hfirst, hrest⟩ := ih store h
          exact ⟨_, rest, a, store₁, rfl, .inspect hfirst, hrest⟩
  | amend change next ih =>
      cases h with
      | amend h =>
          obtain ⟨first, rest, a, store₁, rfl, hfirst, hrest⟩ := ih h
          exact ⟨_, rest, a, store₁, rfl, .amend hfirst, hrest⟩
  | lock next ih =>
      cases h with
      | lock held h =>
          obtain ⟨first, rest, a, store₁, rfl, hfirst, hrest⟩ := ih held h
          exact ⟨_, rest, a, store₁, rfl, .lock held hfirst, hrest⟩
  | unlock next ih =>
      cases h with
      | unlock h =>
          obtain ⟨first, rest, a, store₁, rfl, hfirst, hrest⟩ := ih h
          exact ⟨_, rest, a, store₁, rfl, .unlock hfirst, hrest⟩
  | exchange request next ih =>
      cases h with
      | exchange sent result hsent h =>
          obtain ⟨first, rest, a, store₁, rfl, hfirst, hrest⟩ := ih result h
          exact ⟨_, rest, a, store₁, rfl, .exchange sent result hsent hfirst, hrest⟩

theorem runs_bind {t : Task α} {f : α → Task β} {store store' : TokenStore}
    {events : List Event} {b : β} :
    (t.bind f).Runs store events b store' ↔
      ∃ first rest a store₁, events = first ++ rest ∧ t.Runs store first a store₁ ∧
        (f a).Runs store₁ rest b store' := by
  refine ⟨Runs.of_bind, ?_⟩
  rintro ⟨first, rest, a, store₁, rfl, hfirst, hrest⟩
  exact hfirst.bind hrest

@[simp] theorem runs_done {a b : α} {store store' : TokenStore} {events : List Event} :
    (done a).Runs store events b store' ↔ events = [] ∧ b = a ∧ store' = store := by
  constructor
  · intro h
    cases h
    exact ⟨rfl, rfl, rfl⟩
  · rintro ⟨rfl, rfl, rfl⟩
    exact .done b store'

end Task

/-! ## Operations -/

namespace Operation

def Runs (op : Operation α) (store : TokenStore) (events : List Event)
    (result : Except Failure α) (store' : TokenStore) : Prop :=
  op.run.Runs store events result store'

def play (op : Operation α) (store : TokenStore) (o : Outside) :
    Played (Except Failure α) :=
  op.run.play store o

variable {store store' : TokenStore} {events : List Event}

theorem play_runs (op : Operation α) (store : TokenStore) (o : Outside) :
    op.Runs store (op.play store o).events (op.play store o).result
      (op.play store o).store :=
  Task.play_runs op.run store o

theorem play_bind (op : Operation α) (f : α → Operation β) (store : TokenStore)
    (o : Outside) :
    (op >>= f).play store o =
      let first := op.play store o
      match first.result with
      | .error failure => ⟨.error failure, first.store, first.events⟩
      | .ok a =>
          let rest := (f a).play first.store (o.after first.events.length)
          ⟨rest.result, rest.store, first.events ++ rest.events⟩ := by
  refine (Task.play_bind op.run _ store o).trans ?_
  unfold play
  cases hresult : (op.run.play store o).result with
  | error failure =>
      simp only [hresult]
      exact congrArg (Played.mk _ _) (List.append_nil _)
  | ok a =>
      simp only [hresult]
      rfl

theorem play_bind_events (op : Operation α) (f : α → Operation β) (store : TokenStore)
    (o : Outside) :
    ∃ rest, ((op >>= f).play store o).events = (op.play store o).events ++ rest := by
  rw [play_bind]
  cases hresult : (op.play store o).result with
  | error failure => exact ⟨[], by simp [hresult]⟩
  | ok a =>
      simp only [hresult]
      exact ⟨_, rfl⟩

/-- After a success the rest runs on the store and the moments that are left. -/
theorem play_bind_runs {op : Operation α} {f : α → Operation β} {o : Outside} {a : α}
    (h : (op.play store o).result = .ok a) :
    ∃ rest, ((op >>= f).play store o).events = (op.play store o).events ++ rest ∧
      (f a).Runs (op.play store o).store rest ((op >>= f).play store o).result
        ((op >>= f).play store o).store := by
  rw [play_bind]
  simp only [h]
  exact ⟨_, rfl, play_runs ..⟩

@[simp] theorem runs_pure {a : α} {result : Except Failure α} :
    (pure a : Operation α).Runs store events result store' ↔
      events = [] ∧ result = .ok a ∧ store' = store :=
  Task.runs_done

@[simp] theorem runs_throw {failure : Failure} {result : Except Failure α} :
    (throw failure : Operation α).Runs store events result store' ↔
      events = [] ∧ result = .error failure ∧ store' = store :=
  Task.runs_done

@[simp] theorem runs_ofExcept {a result : Except Failure α} :
    (ofExcept a).Runs store events result store' ↔
      events = [] ∧ result = a ∧ store' = store :=
  Task.runs_done

@[simp] theorem runs_store {result : Except Failure TokenStore} :
    Operation.store.Runs store events result store' ↔
      events = [] ∧ result = .ok store ∧ store' = store := by
  constructor
  · intro h
    cases h with
    | inspect h => exact Task.runs_done.mp h
  · intro h
    exact .inspect (Task.runs_done.mpr h)

@[simp] theorem runs_now {result : Except Failure Instant} :
    now.Runs store events result store' ↔
      ∃ now, events = [.read now] ∧ result = .ok now ∧ store' = store := by
  constructor
  · intro h
    cases h with
    | clock now h =>
        obtain ⟨rfl, rfl, rfl⟩ := Task.runs_done.mp h
        exact ⟨now, rfl, rfl, rfl⟩
  · rintro ⟨now, rfl, rfl, rfl⟩
    exact .clock now (.done ..)

@[simp] theorem runs_amend {change : TokenStore → TokenStore} {result : Except Failure Unit} :
    (amend change).Runs store events result store' ↔
      events = [] ∧ result = .ok () ∧ store' = change store := by
  constructor
  · intro h
    cases h with
    | amend h => exact Task.runs_done.mp h
  · intro h
    exact .amend (Task.runs_done.mpr h)

@[simp] theorem runs_exchange {request : Request} {result : Except Failure Response} :
    (exchange request).Runs store events result store' ↔
      ∃ sent, events = [.exchange request sent result] ∧
        (sent = false → result = .error .cancelled) ∧ store' = store := by
  constructor
  · intro h
    cases h with
    | exchange sent answer hsent h =>
        obtain ⟨rfl, rfl, rfl⟩ := Task.runs_done.mp h
        exact ⟨sent, rfl, hsent, rfl⟩
  · rintro ⟨sent, rfl, hsent, rfl⟩
    exact .exchange sent result hsent (.done ..)

@[simp] theorem runs_outcome {op : Operation α} {result : Except Failure (Except Failure α)} :
    op.outcome.Runs store events result store' ↔
      ∃ a, op.Runs store events a store' ∧ result = .ok a := by
  refine Task.runs_bind.trans ⟨?_, ?_⟩
  · rintro ⟨first, rest, a, store₁, rfl, hop, hrest⟩
    obtain ⟨rfl, rfl, rfl⟩ := Task.runs_done.mp hrest
    rw [List.append_nil]
    exact ⟨a, hop, rfl⟩
  · rintro ⟨a, hop, rfl⟩
    exact ⟨events, [], a, store', by simp, hop, .done ..⟩

theorem runs_locked {op : Operation α} {result : Except Failure α} :
    op.locked.Runs store events result store' ↔
      (events = [.wait false] ∧ result = .error .cancelled ∧ store' = store) ∨
        ∃ rest, events = .wait true :: rest ∧ op.Runs store rest result store' := by
  constructor
  · intro h
    cases h with
    | lock held h =>
        cases held with
        | false =>
            obtain ⟨rfl, rfl, rfl⟩ := Task.runs_done.mp h
            exact .inl ⟨rfl, rfl, rfl⟩
        | true =>
            obtain ⟨first, rest, a, store₁, rfl, hop, hrest⟩ := Task.runs_bind.mp h
            cases hrest with
            | unlock hrest =>
                obtain ⟨rfl, rfl, rfl⟩ := Task.runs_done.mp hrest
                exact .inr ⟨first, by simp, hop⟩
  · rintro (⟨rfl, rfl, rfl⟩ | ⟨rest, rfl, hop⟩)
    · exact .lock false (.done ..)
    · refine .lock true (Task.runs_bind.mpr ?_)
      exact ⟨rest, [], result, store', by simp, hop, .unlock (.done ..)⟩

theorem runs_bind {op : Operation α} {f : α → Operation β} {result : Except Failure β} :
    (op >>= f).Runs store events result store' ↔
      (∃ failure, op.Runs store events (.error failure) store' ∧ result = .error failure) ∨
        ∃ first rest a store₁, events = first ++ rest ∧
          op.Runs store first (.ok a) store₁ ∧ (f a).Runs store₁ rest result store' := by
  refine Task.runs_bind.trans ⟨?_, ?_⟩
  · rintro ⟨first, rest, a, store₁, rfl, hop, hrest⟩
    cases a with
    | error failure =>
        obtain ⟨rfl, rfl, rfl⟩ := Task.runs_done.mp hrest
        rw [List.append_nil]
        exact .inl ⟨failure, hop, rfl⟩
    | ok a => exact .inr ⟨first, rest, a, store₁, rfl, hop, hrest⟩
  · rintro (⟨failure, hop, rfl⟩ | ⟨first, rest, a, store₁, rfl, hop, hrest⟩)
    · exact ⟨events, [], .error failure, store', by simp, hop, .done ..⟩
    · exact ⟨first, rest, .ok a, store₁, rfl, hop, hrest⟩

section Bind

variable {result : Except Failure β}

/-- What never fails and leaves the store alone is followed by the rest. -/
theorem runs_bind_of_ok {op : Operation α} {f : α → Operation β}
    {post : List Event → α → Prop}
    (hop : ∀ {events result store'}, op.Runs store events result store' →
      ∃ a, result = .ok a ∧ post events a ∧ store' = store)
    (h : (op >>= f).Runs store events result store') :
    ∃ first rest a, events = first ++ rest ∧ post first a ∧
      (f a).Runs store rest result store' := by
  rw [runs_bind] at h
  obtain ⟨failure, h, -⟩ | ⟨first, rest, a, store₁, rfl, h, hrest⟩ := h
  · obtain ⟨_, hresult, -⟩ := hop h
    cases hresult
  · obtain ⟨_, hresult, hpost, rfl⟩ := hop h
    cases hresult
    exact ⟨first, rest, a, rfl, hpost, hrest⟩

theorem runs_store_bind {f : TokenStore → Operation β} :
    (Operation.store >>= f).Runs store events result store' ↔
      (f store).Runs store events result store' := by
  simp only [runs_bind, runs_store]
  constructor
  · rintro (⟨_, ⟨_, h, _⟩, _⟩ | ⟨_, rest, _, _, rfl, ⟨rfl, h, rfl⟩, hf⟩)
    · cases h
    · cases h
      exact hf
  · exact fun h => .inr ⟨[], events, store, store, rfl, ⟨rfl, rfl, rfl⟩, h⟩

theorem runs_now_bind {f : Instant → Operation β} :
    (now >>= f).Runs store events result store' ↔
      ∃ now rest, events = .read now :: rest ∧ (f now).Runs store rest result store' := by
  simp only [runs_bind, runs_now]
  constructor
  · rintro (⟨_, ⟨_, _, h, _⟩, _⟩ | ⟨_, rest, _, _, rfl, ⟨time, rfl, h, rfl⟩, hf⟩)
    · cases h
    · cases h
      exact ⟨_, rest, rfl, hf⟩
  · rintro ⟨time, rest, rfl, hf⟩
    exact .inr ⟨[.read time], rest, time, store, rfl, ⟨time, rfl, rfl, rfl⟩, hf⟩

theorem runs_amend_bind {change : TokenStore → TokenStore} {f : Unit → Operation β} :
    (amend change >>= f).Runs store events result store' ↔
      (f ()).Runs (change store) events result store' := by
  simp only [runs_bind, runs_amend]
  constructor
  · rintro (⟨_, ⟨_, h, _⟩, _⟩ | ⟨_, rest, _, _, rfl, ⟨rfl, h, rfl⟩, hf⟩)
    · cases h
    · exact hf
  · exact fun h => .inr ⟨[], events, (), change store, rfl, ⟨rfl, trivial, rfl⟩, h⟩

theorem runs_outcome_bind {op : Operation α} {f : Except Failure α → Operation β} :
    (op.outcome >>= f).Runs store events result store' ↔
      ∃ first rest a store₁, events = first ++ rest ∧ op.Runs store first a store₁ ∧
        (f a).Runs store₁ rest result store' := by
  simp only [runs_bind, runs_outcome]
  constructor
  · rintro (⟨_, ⟨_, _, h⟩, _⟩ | ⟨first, rest, _, store₁, rfl, ⟨value, hop, h⟩, hf⟩)
    · cases h
    · cases h
      exact ⟨first, rest, _, store₁, rfl, hop, hf⟩
  · rintro ⟨first, rest, a, store₁, rfl, hop, hf⟩
    exact .inr ⟨first, rest, a, store₁, rfl, ⟨a, hop, rfl⟩, hf⟩

theorem runs_exchange_bind {request : Request} {f : Response → Operation β} :
    (exchange request >>= f).Runs store events result store' ↔
      (∃ sent failure, events = [.exchange request sent (.error failure)] ∧
        (sent = false → failure = .cancelled) ∧ result = .error failure ∧ store' = store) ∨
      ∃ response rest, events = .exchange request true (.ok response) :: rest ∧
        (f response).Runs store rest result store' := by
  simp only [runs_bind, runs_exchange]
  constructor
  · rintro (⟨failure, ⟨sent, rfl, hsent, rfl⟩, rfl⟩ |
      ⟨_, rest, response, _, rfl, ⟨sent, rfl, hsent, rfl⟩, hf⟩)
    · exact .inl ⟨sent, failure, rfl, fun h => Except.error.inj (hsent h), rfl, rfl⟩
    · cases sent with
      | true => exact .inr ⟨response, rest, rfl, hf⟩
      | false => cases hsent rfl
  · rintro (⟨sent, failure, rfl, hsent, rfl, rfl⟩ | ⟨response, rest, rfl, hf⟩)
    · exact .inl ⟨failure, ⟨sent, rfl, fun h => by rw [hsent h], rfl⟩, rfl⟩
    · exact .inr ⟨[.exchange request true (.ok response)], rest, response, store, rfl,
        ⟨true, rfl, by simp, rfl⟩, hf⟩

theorem play_ofExcept_ok_bind (a : α) (f : α → Operation β) (o : Outside) :
    (ofExcept (.ok a) >>= f).play store o = (f a).play store o :=
  rfl

theorem runs_ofExcept_bind {a : Except Failure α} {f : α → Operation β} :
    (ofExcept a >>= f).Runs store events result store' ↔
      (∃ failure, a = .error failure ∧ events = [] ∧ result = .error failure ∧
        store' = store) ∨
      ∃ value, a = .ok value ∧ (f value).Runs store events result store' := by
  cases a with
  | error failure =>
      refine runs_throw.trans ⟨fun h => .inl ⟨failure, rfl, h⟩, ?_⟩
      rintro (⟨_, h, hrest⟩ | ⟨_, h, _⟩)
      · cases h
        exact hrest
      · cases h
  | ok value =>
      refine ⟨fun h => .inr ⟨value, rfl, h⟩, ?_⟩
      rintro (⟨_, h, _⟩ | ⟨_, h, hf⟩)
      · cases h
      · cases h
        exact hf

end Bind

end Operation

/-! ## Scripted runs -/

def Event.request? : Event → Option Request
  | exchange request true _ => some request
  | _ => none

namespace Task

/-- A run against a script is a play against some outside. -/
theorem exists_play_of_run (t : Task α) (w : World) :
    ∃ o, (t.play w.store o).result = (t.run w).1 ∧
      (t.play w.store o).store = (t.run w).2.store ∧
      (t.run w).2.sent =
        ((t.play w.store o).events.filterMap Event.request?).reverse ++ w.sent := by
  induction t generalizing w with
  | done a => exact ⟨fun _ => ⟨w.now, w.cancelled, .error .network⟩, rfl, rfl, rfl⟩
  | clock next ih =>
      obtain ⟨o, ho⟩ := ih w.now w
      refine ⟨.cons ⟨w.now, w.cancelled, .error .network⟩ o, ?_⟩
      simpa [play, run, Outside.cons, Outside.after_cons, List.filterMap_cons,
        Event.request?] using ho
  | inspect next ih => exact ih w.store w
  | amend change next ih => exact ih { w with store := change w.store }
  | lock next ih =>
      obtain ⟨o, ho⟩ := ih (!w.cancelled) w
      refine ⟨.cons ⟨w.now, w.cancelled, .error .network⟩ o, ?_⟩
      simpa [play, run, Outside.cons, Outside.after_cons, List.filterMap_cons,
        Event.request?] using ho
  | unlock next ih => exact ih w
  | exchange request next ih =>
      obtain ⟨o, ho⟩ := ih (w.exchange request).1 (w.exchange request).2
      refine ⟨.cons ⟨w.now, w.cancelled, (w.exchange request).1⟩ o, ?_⟩
      have hstore : (w.exchange request).2.store = w.store := by
        unfold World.exchange
        split
        · rfl
        · simp only
          split <;> rfl
      rw [hstore] at ho
      cases hcancelled : w.cancelled with
      | true =>
          have hexchange : w.exchange request = (.error .cancelled, w) := by
            simp [World.exchange, hcancelled]
          rw [hexchange] at ho
          simpa [play, run, Outside.cons, Outside.after_cons, List.filterMap_cons,
            Event.request?, hexchange] using ho
      | false =>
          have hsent : (w.exchange request).2.sent = request :: w.sent := by
            simp only [World.exchange, hcancelled, Bool.false_eq_true, if_false]
            split <;> rfl
          rw [hsent] at ho
          simpa [play, run, Outside.cons, Outside.after_cons, List.filterMap_cons,
        Event.request?] using ho

end Task

end ProgramGuide
