import ProgramGuide.Proofs.Program.Join
import ProgramGuide.Proofs.Service.Listing

/-!
# Cancellation

A task heeds a cancellation when it stops at once, at whichever wait or exchange it learns
of it, and says so in its result; and when its result says so only then.
-/

namespace ProgramGuide

namespace Task

/-- Nothing is left to do but work on the store, and the result will be as described. -/
def Closes (q : α → Prop) : Task α → Prop
  | done a => q a
  | clock _ => False
  | inspect next => ∀ store, (next store).Closes q
  | amend _ next => next.Closes q
  | lock _ => False
  | unlock next => next.Closes q
  | exchange _ _ => False

/-- A cancellation closes the task with such a result, and nothing else leads to one. -/
def Heeds (q : α → Prop) : Task α → Prop
  | done a => ¬q a
  | clock next => ∀ now, (next now).Heeds q
  | inspect next => ∀ store, (next store).Heeds q
  | amend _ next => next.Heeds q
  | lock next => (next true).Heeds q ∧ (next false).Closes q
  | unlock next => next.Heeds q
  | exchange _ next =>
      (∀ result, result ≠ .error .cancelled → (next result).Heeds q) ∧
        (next (.error .cancelled)).Closes q

variable {q : α → Prop} {r : β → Prop}

theorem Closes.bind {t : Task α} {f : α → Task β} (h : t.Closes q)
    (hf : ∀ a, q a → (f a).Closes r) : (t.bind f).Closes r := by
  induction t with
  | done a => exact hf a h
  | clock => cases h
  | inspect next ih =>
      intro store
      exact ih store (h store)
  | amend _ _ ih => exact ih h
  | lock => cases h
  | unlock _ ih => exact ih h
  | exchange => cases h

theorem Heeds.bind {t : Task α} {f : α → Task β} (h : t.Heeds q)
    (hf : ∀ a, ¬q a → (f a).Heeds r) (hclose : ∀ a, q a → (f a).Closes r) :
    (t.bind f).Heeds r := by
  -- Only at the lock and at an exchange do those who go on part from those who stop.
  induction t with
  | done a => exact hf a h
  | clock next ih =>
      intro now
      exact ih now (h now)
  | inspect next ih =>
      intro store
      exact ih store (h store)
  | amend _ _ ih => exact ih h
  | lock next ih => exact ⟨ih true h.1, h.2.bind hclose⟩
  | unlock _ ih => exact ih h
  | exchange request next ih =>
      refine ⟨?_, h.2.bind hclose⟩
      intro result hresult
      exact ih result (h.1 result hresult)

/-! ## Tasks among others -/

/-- The task while others change the store between any of its steps. -/
inductive Amid : Task α → Task α → Prop
  | done (a) : Amid (.done a) (.done a)
  | clock {next next'} (h : ∀ now, Amid (next now) (next' now)) :
      Amid (.clock next) (.clock next')
  | inspect {next next'} (h : ∀ store, Amid (next store) (next' store)) :
      Amid (.inspect next) (.inspect next')
  | amend {next next'} (change) (h : Amid next next') :
      Amid (.amend change next) (.amend change next')
  | lock {next next'} (h : ∀ held, Amid (next held) (next' held)) :
      Amid (.lock next) (.lock next')
  | unlock {next next'} (h : Amid next next') : Amid (.unlock next) (.unlock next')
  | exchange {next next'} (request) (h : ∀ result, Amid (next result) (next' result)) :
      Amid (.exchange request next) (.exchange request next')
  | others {t t'} (change) (h : Amid t t') : Amid t (.amend change t')

theorem Amid.refl (t : Task α) : Amid t t := by
  induction t with
  | done a => exact .done a
  | clock _ ih => exact .clock ih
  | inspect _ ih => exact .inspect ih
  | amend change _ ih => exact .amend change ih
  | lock _ ih => exact .lock ih
  | unlock _ ih => exact .unlock ih
  | exchange request _ ih => exact .exchange request ih

theorem Amid.closes {t t' : Task α} (h : t.Amid t') (hclose : t.Closes q) : t'.Closes q := by
  induction h with
  | done => exact hclose
  | clock => cases hclose
  | inspect _ ih =>
      intro store
      exact ih store (hclose store)
  | amend _ _ ih => exact ih hclose
  | lock => cases hclose
  | unlock _ ih => exact ih hclose
  | exchange => cases hclose
  | others _ _ ih => exact ih hclose

theorem Amid.heeds {t t' : Task α} (h : t.Amid t') (hheeds : t.Heeds q) : t'.Heeds q := by
  induction h with
  | done => exact hheeds
  | clock _ ih =>
      intro now
      exact ih now (hheeds now)
  | inspect _ ih =>
      intro store
      exact ih store (hheeds store)
  | amend _ _ ih => exact ih hheeds
  | lock h ih => exact ⟨ih true hheeds.1, (h false).closes hheeds.2⟩
  | unlock _ ih => exact ih hheeds
  | exchange request h ih =>
      refine ⟨?_, (h (.error .cancelled)).closes hheeds.2⟩
      intro result hresult
      exact ih result (hheeds.1 result hresult)
  | others _ _ ih => exact ih hheeds

/-! ## Plays of tasks that heed cancellations -/

theorem Closes.play {t : Task α} (h : t.Closes q) (store : TokenStore) (o : Outside) :
    q (t.play store o).result ∧ (t.play store o).events = [] := by
  induction t generalizing store with
  | done a => exact ⟨h, rfl⟩
  | clock => cases h
  | inspect next ih => exact ih store (h store) store
  | amend change next ih => exact ih h (change store)
  | lock => cases h
  | unlock next ih => exact ih h store
  | exchange => cases h

/-- Either there is no cancellation, or it comes last. -/
inductive Halts (q : α → Prop) : List Event → α → Prop
  | through {events a} (h : Uncancelled events) (ha : ¬q a) : Halts q events a
  | cut {events last a} (h : Uncancelled events) (hlast : last.isCancelled = true)
      (ha : q a) : Halts q (events ++ [last]) a

theorem Halts.cons {events : List Event} {a : α} {event : Event}
    (hevent : event.isCancelled = false) (h : Halts q events a) :
    Halts q (event :: events) a := by
  cases h with
  | through h ha => exact .through (Stage.uncancelled_cons.mpr ⟨hevent, h⟩) ha
  | cut h hlast ha => exact .cut (Stage.uncancelled_cons.mpr ⟨hevent, h⟩) hlast ha

theorem Closes.halts {t : Task α} (h : t.Closes q) {event : Event}
    (hevent : event.isCancelled = true) (store : TokenStore) (o : Outside) :
    Halts q (event :: (t.play store o).events) (t.play store o).result := by
  obtain ⟨hresult, hevents⟩ := h.play store o
  have hcut : Halts q ([] ++ [event]) (t.play store o).result :=
    .cut (by simp [Uncancelled]) hevent hresult
  rwa [hevents]

theorem Heeds.play {t : Task α} (h : t.Heeds q) (store : TokenStore) (o : Outside) :
    Halts q (t.play store o).events (t.play store o).result := by
  induction t generalizing store o with
  | done a => exact .through (by simp [Uncancelled, Task.play]) h
  | clock next ih => exact (ih _ (h _) store _).cons rfl
  | inspect next ih => exact ih store (h store) store o
  | amend change next ih => exact ih h (change store) o
  | lock next ih =>
      cases hcancelled : (o 0).cancelled with
      | true => simpa [Task.play, hcancelled] using h.2.halts rfl store (o.after 1)
      | false => simpa [Task.play, hcancelled] using (ih true h.1 store (o.after 1)).cons rfl
  | unlock next ih => exact ih h store o
  | exchange request next ih =>
      simp only [Task.play]
      split
      next => exact h.2.halts rfl store (o.after 1)
      next =>
        by_cases hanswer : (o 0).answer = .error .cancelled
        · rw [hanswer]
          exact h.2.halts rfl store (o.after 1)
        · have hevent : (Event.exchange request true (o 0).answer).isCancelled = false := by
            unfold Event.isCancelled
            split <;> simp_all
          exact (ih _ (h.1 _ hanswer) store (o.after 1)).cons hevent

/-- At a moment at which the caller has cancelled, only the clock can be read. -/
theorem event_of_cancelled (t : Task α) {store : TokenStore} {o : Outside} {n : Nat}
    {event : Event} (hevent : (t.play store o).events[n]? = some event)
    (h : (o n).cancelled = true) :
    (∃ now, event = .read now) ∨ (event.isCancelled = true ∧ event.request? = none) := by
  induction t generalizing store o n with
  | done a => simp [Task.play] at hevent
  | clock next ih =>
      cases n with
      | zero =>
          obtain rfl : Event.read (o 0).now = event := by simpa [Task.play] using hevent
          exact .inl ⟨_, rfl⟩
      | succ n => exact ih _ hevent h
  | inspect next ih => exact ih store hevent h
  | amend change next ih => exact ih hevent h
  | lock next ih =>
      cases n with
      | zero =>
          obtain rfl : Event.wait false = event := by simpa [Task.play, h] using hevent
          exact .inr ⟨rfl, rfl⟩
      | succ n => exact ih _ hevent h
  | unlock next ih => exact ih hevent h
  | exchange request next ih =>
      simp only [Task.play] at hevent
      cases n with
      | zero =>
          rw [if_pos h] at hevent
          obtain rfl : Event.exchange request false (.error .cancelled) = event := by
            simpa using hevent
          exact .inr ⟨rfl, rfl⟩
      | succ n =>
          split at hevent
          next => exact ih _ hevent h
          next => exact ih _ hevent h

end Task

/-! ## Operations that heed cancellations -/

namespace Operation

structure Heeds (op : Operation α) : Prop where
  task : op.run.Heeds (· = .error .cancelled)

theorem heeds_ofExcept {result : Except Failure α} (h : result ≠ .error .cancelled) :
    (ofExcept result).Heeds :=
  ⟨h⟩

theorem heeds_pure (a : α) : (pure a : Operation α).Heeds where
  task h := by cases h

theorem heeds_throw {failure : Failure} (h : failure ≠ .cancelled) :
    (throw failure : Operation α).Heeds where
  task hfailure := h (Except.error.inj hfailure)

theorem heeds_now : now.Heeds where
  task now h := by cases h

theorem heeds_store : store.Heeds where
  task store h := by cases h

theorem heeds_amend (change : TokenStore → TokenStore) : (amend change).Heeds where
  task h := by cases h

theorem heeds_exchange (request : Request) : (exchange request).Heeds where
  task := ⟨fun _ h => h, rfl⟩

theorem Heeds.bind {op : Operation α} {f : α → Operation β} (h : op.Heeds)
    (hf : ∀ a, (f a).Heeds) : (op >>= f).Heeds where
  task := by
    apply Task.Heeds.bind h.task
    · intro result hresult
      cases result with
      | ok a => exact (hf a).task
      | error failure =>
          intro hfailure
          cases hfailure
          exact hresult rfl
    · rintro result rfl
      exact rfl

/-- An outcome may be dealt with in any way that passes a cancellation on. -/
theorem Heeds.outcome_bind {op : Operation α} {f : Except Failure α → Operation β}
    (h : op.Heeds) (hf : ∀ result, result ≠ .error .cancelled → (f result).Heeds)
    (hcancelled : f (.error .cancelled) = throw .cancelled) :
    (op.outcome >>= f).Heeds where
  task := by
    have hrun : (op.outcome >>= f).run = op.run.bind fun result => (f result).run :=
      Task.bind_bind ..
    rw [hrun]
    apply Task.Heeds.bind h.task
    · intro result hresult
      exact (hf result hresult).task
    · rintro result rfl
      rw [hcancelled]
      exact rfl

theorem Heeds.locked {op : Operation α} (h : op.Heeds) : op.locked.Heeds where
  task := by
    refine ⟨?_, rfl⟩
    apply Task.Heeds.bind h.task
    · intro result hresult
      exact hresult
    · intro result hresult
      exact hresult

variable {policy : TokenPolicy} {c : Credentials}

theorem heeds_current {username : String} : (Tokens.current policy username).Heeds := by
  apply heeds_store.bind
  intro store
  split
  · exact heeds_pure _
  · exact heeds_now.bind fun now => heeds_pure _

theorem heeds_inCooldown : (Tokens.inCooldown policy).Heeds := by
  apply heeds_store.bind
  intro store
  split
  · exact heeds_pure _
  · exact heeds_now.bind fun now => heeds_pure _

theorem heeds_look : (Tokens.look policy c).Heeds := by
  apply heeds_current.bind
  intro token
  split
  · exact heeds_pure _
  · exact heeds_inCooldown.bind fun cooling => heeds_pure _

theorem heeds_authenticate : (Tokens.authenticate c).Heeds := by
  apply (heeds_exchange _).bind
  intro response
  split
  · apply (heeds_ofExcept Listing.decode_ne_cancelled).bind
    intro reply
    exact heeds_ofExcept reply.granted_ne_cancelled
  · exact heeds_throw (by simp [Response.failure])

theorem heeds_refresh : (Tokens.refresh c).Heeds := by
  apply heeds_authenticate.outcome_bind
  · intro result hresult
    split
    · apply heeds_now.bind
      intro now
      exact (heeds_amend _).bind fun _ => heeds_pure _
    · split
      · apply (heeds_amend _).bind
        intro _
        apply heeds_now.bind
        intro now
        exact (heeds_amend _).bind fun _ => heeds_throw (by simp)
      · exact heeds_throw (by simpa using hresult)
  · -- A cancellation is no rejection of the credentials.
    rfl

theorem heeds_acquire : (Tokens.acquire policy c).Heeds := by
  unfold Tokens.acquire
  split
  · exact heeds_pure _
  · apply heeds_look.bind
    intro settled
    split
    · exact heeds_pure _
    · apply Heeds.locked
      apply heeds_look.bind
      intro settled
      split
      · exact heeds_pure _
      · exact heeds_refresh.bind fun token => heeds_pure _

theorem heeds_refreshed {request : Request} :
    (Transport.refreshed policy c request).Heeds := by
  unfold Transport.refreshed
  split
  · apply heeds_current.bind
    intro token
    split
    · exact heeds_pure _
    · exact heeds_pure _
  · exact heeds_pure _

theorem heeds_attempt {request : Request} : (Transport.attempt request).Heeds := by
  apply (heeds_exchange _).bind
  intro response
  split
  · exact heeds_pure _
  · exact heeds_throw (by simp [Response.failure])

theorem heeds_send {retryAllowed : Bool} {request : Request} :
    (Transport.send policy retryAllowed c request).Heeds := by
  apply heeds_refreshed.bind
  intro renewed
  apply (heeds_exchange _).bind
  intro response
  split
  · exact heeds_pure _
  · split
    · exact heeds_throw (by simp [Response.failure])
    · apply (heeds_amend _).bind
      intro _
      apply heeds_acquire.bind
      intro token
      split
      · exact heeds_attempt
      · exact heeds_throw (by simp [Response.failure])

theorem heeds_schedule {station : String} {dates : List String} {token : Option String} :
    (Fetch.schedule policy c station dates token).Heeds := by
  unfold Fetch.schedule
  split
  · exact heeds_pure _
  · split
    · exact heeds_pure _
    · apply heeds_send.bind
      intro response
      apply (heeds_ofExcept Listing.decode_ne_cancelled).bind
      intro days
      dsimp only
      split
      · exact heeds_pure _
      · apply heeds_send.bind
        intro response
        exact (heeds_ofExcept Listing.decode_ne_cancelled).bind fun details => heeds_pure _

/-- Artwork makes do without what it cannot have, but not after a cancellation. -/
theorem heeds_artwork {ids : List String} {token : String} :
    (Fetch.artwork policy c ids token).Heeds := by
  have hindex : (Fetch.artworkOf policy c (Fetch.artworkRoots ids) token).Heeds := by
    apply heeds_send.bind
    intro response
    exact (heeds_ofExcept Listing.decode_ne_cancelled).bind fun shows => heeds_pure _
  unfold Fetch.artwork
  dsimp only
  split
  · exact heeds_pure _
  · apply hindex.outcome_bind
    · intro result hresult
      split
      · exact heeds_pure _
      · exact absurd rfl hresult
      · exact heeds_pure _
    · rfl

end Operation

namespace Provider

open Operation

variable {provider : Provider} {account : Account}

theorem checkWindow_ne_cancelled (channel : String) (start stop : Instant) :
    checkWindow channel start stop ≠ .error .cancelled := by
  unfold checkWindow
  split
  · simp
  · split <;> simp

theorem requireListingsId_ne_cancelled (account : Account) :
    requireListingsId account ≠ .error .cancelled := by
  unfold requireListingsId
  dsimp only
  split <;> simp

theorem checkLogin_ne_cancelled (account : Account) :
    checkLogin account ≠ .error .cancelled := by
  unfold checkLogin
  split
  · simp
  · split <;> simp

theorem mergeAll_ne_cancelled {channel base : String} {days : List ScheduleDay}
    {details : List ProgramDetails} {artwork : ArtworkIndex} :
    ProgramRecord.mergeAll channel days details artwork base ≠ .error .cancelled := by
  intro h
  obtain ⟨_, _, _, _, _, hhindered⟩ := ProgramRecord.hindered_of_mergeAll h
  cases hhindered

theorem heeds_programs {channel : String} {start stop : Instant} :
    (provider.programs account channel start stop).Heeds := by
  unfold programs
  apply (heeds_ofExcept (checkWindow_ne_cancelled channel start stop)).bind
  intro _
  apply heeds_acquire.bind
  intro token
  split
  · exact heeds_pure _
  · apply heeds_schedule.bind
    intro batch
    split
    · exact heeds_pure _
    · apply heeds_artwork.bind
      intro artwork
      exact heeds_ofExcept mergeAll_ne_cancelled

theorem heeds_requireToken {refusal : Refusal} :
    (provider.requireToken account refusal).Heeds := by
  unfold requireToken
  apply heeds_acquire.bind
  intro token
  split
  · exact heeds_pure _
  · exact heeds_throw (by simp)

theorem heeds_channels : (provider.channels account).Heeds := by
  unfold channels
  apply (heeds_ofExcept (requireListingsId_ne_cancelled account)).bind
  intro id
  apply heeds_requireToken.bind
  intro token
  apply heeds_send.bind
  intro response
  exact (heeds_ofExcept Listing.decode_ne_cancelled).bind fun lineup => heeds_pure _

theorem heeds_lineups {country postalCode : String} :
    (provider.lineups account country postalCode).Heeds := by
  have hheadends (token : String) :
      (provider.headends account country postalCode token).Heeds := by
    apply heeds_send.bind
    intro response
    exact (heeds_ofExcept Listing.decode_ne_cancelled).bind fun headends => heeds_pure _
  unfold lineups
  apply heeds_acquire.bind
  intro token
  split
  · exact heeds_pure _
  · apply (hheadends _).outcome_bind
    · intro result hresult
      split
      · exact heeds_pure _
      · exact absurd rfl hresult
      · exact heeds_pure _
    · rfl

theorem heeds_hasLineup : (provider.hasLineup account).Heeds := by
  unfold hasLineup
  apply (heeds_ofExcept (requireListingsId_ne_cancelled account)).bind
  intro id
  apply heeds_requireToken.bind
  intro token
  apply heeds_send.outcome_bind
  · intro result hresult
    split
    · exact (heeds_ofExcept Listing.decode_ne_cancelled).bind fun lineups => heeds_pure _
    · split
      · exact heeds_pure _
      · exact heeds_throw (by simpa using hresult)
  · rfl

theorem heeds_addLineup : (provider.addLineup account).Heeds := by
  unfold addLineup
  apply heeds_requireToken.bind
  intro token
  apply (heeds_ofExcept (requireListingsId_ne_cancelled account)).bind
  intro id
  exact heeds_send.bind fun response => heeds_pure _

theorem heeds_validate {login listings : Bool} :
    (provider.validate account login listings).Heeds := by
  have hlistings : (if listings = true then do
        let _ ← Operation.ofExcept (requireListingsId account)
        if !(← provider.hasLineup account) then provider.addLineup account
      else pure () : Operation Unit).Heeds := by
    split
    · apply (heeds_ofExcept (requireListingsId_ne_cancelled account)).bind
      intro _
      apply heeds_hasLineup.bind
      intro attached
      split
      · exact heeds_addLineup
      · exact heeds_pure _
    · exact heeds_pure _
  unfold validate
  dsimp only
  split
  · exact (heeds_ofExcept (checkLogin_ne_cancelled account)).bind fun _ => hlistings
  · exact hlistings

end Provider

open Provider in
theorem Errand.heeds (errand : Errand) (provider : Provider) :
    (errand.operation provider).Heeds := by
  cases errand with
  | programs => exact heeds_programs.bind fun _ => Operation.heeds_pure _
  | channels => exact heeds_channels.bind fun _ => Operation.heeds_pure _
  | lineups => exact heeds_lineups.bind fun _ => Operation.heeds_pure _
  | hasLineup => exact heeds_hasLineup.bind fun _ => Operation.heeds_pure _
  | addLineup => exact heeds_addLineup.bind fun _ => Operation.heeds_pure _
  | validate => exact heeds_validate.bind fun _ => Operation.heeds_pure _

/-! ## Cancelled calls -/

/-- The caller has cancelled by some moment. -/
def Outside.CancelledFrom (o : Outside) (k : Nat) : Prop := ∀ n, k ≤ n → (o n).cancelled = true

/-- What a cancellation does to a call, whenever it comes. -/
structure Heeded (o : Outside) (played : Played (Except Failure α)) : Prop where
  silent : ∀ k, o.CancelledFrom k → ∀ n event, k ≤ n → played.events[n]? = some event →
    event.request? = none
  /-- There is no way past a cancellation but to look at the clock. -/
  stopped : ∀ k, o.CancelledFrom k → ∀ n event, k ≤ n → played.events[n]? = some event →
    (∀ now, event ≠ .read now) → played.result = .error .cancelled
  last : ∀ event ∈ played.events.dropLast, event.isCancelled = false
  cancelled_iff : played.result = .error .cancelled ↔
    ∃ event ∈ played.events, event.isCancelled = true

private theorem cancelled_iff_of_halts {events : List Event} {result : Except Failure α}
    (h : Task.Halts (· = .error .cancelled) events result) :
    result = .error .cancelled ↔ ∃ event ∈ events, event.isCancelled = true := by
  cases h with
  | through h hresult =>
      constructor
      · intro hcancelled
        exact absurd hcancelled hresult
      · rintro ⟨event, hevent, hcancelled⟩
        rw [h event hevent] at hcancelled
        cases hcancelled
  | @cut _ last _ _ hlast hresult => simp [hresult, hlast]

private theorem uncancelled_dropLast_of_halts {events : List Event}
    {result : Except Failure α} (h : Task.Halts (· = .error .cancelled) events result) :
    Uncancelled events.dropLast := by
  cases h with
  | through h =>
      intro event hevent
      exact h event (List.dropLast_subset _ hevent)
  | cut h => rwa [List.dropLast_concat]

theorem heeded_of_halts {task : Task (Except Failure α)} {store : TokenStore} {o : Outside}
    (h : Task.Halts (· = .error .cancelled) (task.play store o).events
      (task.play store o).result) : Heeded o (task.play store o) where
  silent k hk n event hn hevent := by
    obtain ⟨now, rfl⟩ | ⟨-, hrequest⟩ := task.event_of_cancelled hevent (hk n hn)
    · rfl
    · exact hrequest
  stopped k hk n event hn hevent hread := by
    obtain ⟨now, rfl⟩ | ⟨hcancelled, -⟩ := task.event_of_cancelled hevent (hk n hn)
    · exact absurd rfl (hread now)
    · have hmem := List.mem_of_getElem? hevent
      exact (cancelled_iff_of_halts h).mpr ⟨event, hmem, hcancelled⟩
  last := uncancelled_dropLast_of_halts h
  cancelled_iff := cancelled_iff_of_halts h

/-- Every operation of the provider heeds a cancellation, whatever others do to the store
meanwhile. -/
theorem Errand.heeded {errand : Errand} {provider : Provider}
    {task : Task (Except Failure Answer)}
    (hamid : (errand.operation provider).run.Amid task) (store : TokenStore) (o : Outside) :
    Heeded o (task.play store o) :=
  heeded_of_halts ((hamid.heeds (errand.heeds provider).task).play store o)

open Listing in
/-- A cancellation before the artwork is asked for, on a store that another has cleared. -/
theorem Errand.heeded_evening :
    let errand := Errand.programs viewerAccount "20454" ⟨1704412800, 0⟩ ⟨1704416400, 0⟩
    let task := Task.amend TokenStore.clear (errand.operation plainProvider).run
    let o : Outside := fun n => { answering evening n with cancelled := 8 ≤ n }
    Heeded o (task.play .empty o) ∧ (task.play .empty o).result = .error .cancelled := by
  refine ⟨Errand.heeded (.others TokenStore.clear (.refl _)) .empty _, ?_⟩
  decide +kernel

end ProgramGuide
