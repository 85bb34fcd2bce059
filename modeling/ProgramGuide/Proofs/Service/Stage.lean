import ProgramGuide.Proofs.Service.Paths

/-!
# Stages

A stage sends one request, twice if need be.  What becomes of it can be read off its last
attempt and off the request for a token that may follow.
-/

namespace ProgramGuide

namespace Event

def path? : Event → Option String
  | exchange request _ _ => some request.path
  | _ => none

/-- What comes of the event as an attempt at a path. -/
def attempt? (path : String) : Event → Option (Except Failure Response)
  | exchange request _ answer => if request.path = path then some answer else none
  | _ => none

theorem attempt?_eq_none {path : String} {event : Event} (h : event.path? ≠ some path) :
    event.attempt? path = none := by
  cases event with
  | read => rfl
  | wait => rfl
  | exchange request sent answer =>
      have hpath : request.path ≠ path := fun hpath => h (congrArg some hpath)
      exact if_neg hpath

def isCancelled : Event → Bool
  | wait held => !held
  | exchange _ _ (.error .cancelled) => true
  | _ => false

/-- The failure of a request for a token, as the caller is told of it. -/
def refusal? (c : Credentials) : Event → Option Failure
  | exchange request _ answer =>
      if request.path = "token" then
        match Tokens.verdict answer with
        | .error failure => some (Tokens.reported c failure)
        | .ok _ => none
      else none
  | _ => none

end Event

def Absent (path : String) (events : List Event) : Prop :=
  ∀ event ∈ events, event.path? ≠ some path

def Uncancelled (events : List Event) : Prop := ∀ event ∈ events, event.isCancelled = false

instance (events : List Event) : Decidable (Uncancelled events) :=
  inferInstanceAs (Decidable (∀ event ∈ events, event.isCancelled = false))

namespace Stage

/-- What an attempt comes to with what follows it: a client error is the failure, unless
it is a failure to get a token for another attempt. -/
def settle (c : Credentials) (answer : Except Failure Response) (rest : List Event) :
    Except Failure Response :=
  match answer with
  | .error failure => .error failure
  | .ok response =>
      if response.isSuccess then .ok response
      else .error ((rest.findSome? (Event.refusal? c)).getD response.failure)

/-- What the last attempt at a path comes to, if there is one. -/
def outcome? (c : Credentials) (path : String) :
    List Event → Option (Except Failure Response)
  | [] => none
  | event :: rest =>
      (outcome? c path rest).or
        ((event.attempt? path).map fun answer => settle c answer rest)

variable {c : Credentials} {path : String} {events rest : List Event}

theorem absent_nil : Absent path [] := by simp [Absent]

theorem absent_append :
    Absent path (events ++ rest) ↔ Absent path events ∧ Absent path rest := by
  simp only [Absent, List.forall_mem_append]

theorem absent_cons {event : Event} :
    Absent path (event :: rest) ↔ event.path? ≠ some path ∧ Absent path rest := by
  simp only [Absent, List.forall_mem_cons]

theorem uncancelled_append :
    Uncancelled (events ++ rest) ↔ Uncancelled events ∧ Uncancelled rest := by
  simp only [Uncancelled, List.forall_mem_append]

theorem uncancelled_cons {event : Event} :
    Uncancelled (event :: rest) ↔ event.isCancelled = false ∧ Uncancelled rest := by
  simp only [Uncancelled, List.forall_mem_cons]

theorem outcome?_of_absent (h : Absent path events) : outcome? c path events = none := by
  induction events with
  | nil => rfl
  | cons event rest ih =>
      obtain ⟨hevent, hrest⟩ := absent_cons.mp h
      rw [outcome?, ih hrest, Event.attempt?_eq_none hevent]
      rfl

theorem outcome?_append_left (h : Absent path events) :
    outcome? c path (events ++ rest) = outcome? c path rest := by
  induction events with
  | nil => rfl
  | cons event events ih =>
      obtain ⟨hevent, hevents⟩ := absent_cons.mp h
      rw [List.cons_append, outcome?, ih hevents, Event.attempt?_eq_none hevent]
      exact Option.or_none

private theorem settle_append {answer : Except Failure Response}
    (hfail : ∀ failure, settle c answer events ≠ .error failure) :
    settle c answer (events ++ rest) = settle c answer events := by
  cases answer with
  | error failure => exact absurd rfl (hfail failure)
  | ok response =>
      unfold settle at hfail ⊢
      dsimp only at hfail ⊢
      split at hfail
      next hsuccess => rw [if_pos hsuccess, if_pos hsuccess]
      next => exact absurd rfl (hfail _)

/-- What follows a stage that did not fail does not change its outcome. -/
theorem outcome?_append_right (h : Absent path rest)
    (hfail : ∀ failure, outcome? c path events ≠ some (.error failure)) :
    outcome? c path (events ++ rest) = outcome? c path events := by
  induction events with
  | nil => exact outcome?_of_absent h
  | cons event events ih =>
      rw [outcome?] at hfail
      rw [List.cons_append, outcome?, outcome?]
      cases hevents : outcome? c path events with
      | some outcome =>
          rw [hevents, Option.some_or] at hfail
          rw [ih (by rwa [hevents]), hevents, Option.some_or, Option.some_or]
      | none =>
          rw [hevents, Option.none_or] at hfail
          rw [ih (by simp [hevents]), hevents, Option.none_or, Option.none_or]
          cases hattempt : event.attempt? path with
          | none => rfl
          | some answer =>
              rw [hattempt] at hfail
              refine congrArg some (settle_append fun failure hsettle => ?_)
              exact hfail failure (congrArg some hsettle)

theorem outcome?_attempt {before : List Event} {request : Request} {sent : Bool}
    {answer : Except Failure Response} (hpath : request.path = path)
    (h : Absent path rest) :
    outcome? c path (before ++ .exchange request sent answer :: rest) =
      some (settle c answer rest) := by
  induction before with
  | nil =>
      have hattempt : (Event.exchange request sent answer).attempt? path = some answer :=
        if_pos hpath
      rw [List.nil_append, outcome?, outcome?_of_absent h, hattempt]
      rfl
  | cons event before ih => rw [List.cons_append, outcome?, ih, Option.some_or]

theorem settle_nil (answer : Except Failure Response) :
    settle c answer [] = Transport.judged answer := by
  cases answer <;> rfl

/-! ## Looks at the store -/

def Reads (events : List Event) : Prop := ∀ event ∈ events, ∃ now, event = .read now

theorem reads_append (h : Reads events) (h' : Reads rest) : Reads (events ++ rest) := by
  intro event hevent
  rcases List.mem_append.mp hevent with hevent | hevent
  · exact h event hevent
  · exact h' event hevent

theorem Reads.absent (h : Reads events) (path : String) : Absent path events := by
  intro event hevent
  obtain ⟨now, rfl⟩ := h event hevent
  simp [Event.path?]

theorem Reads.refusal?_eq_none (h : Reads events) :
    events.findSome? (Event.refusal? c) = none := by
  rw [List.findSome?_eq_none_iff]
  intro event hevent
  obtain ⟨now, rfl⟩ := h event hevent
  rfl

variable {policy : TokenPolicy} {store store' : TokenStore}

theorem reads_of_current {username : String} {token : Option String}
    (h : Tokens.Current policy username store events token) : Reads events := by
  cases h <;> simp [Reads]

theorem reads_of_cooling {cooling : Bool} (h : Tokens.Cooling policy store events cooling) :
    Reads events := by
  cases h <;> simp [Reads]

theorem reads_of_looked {settled : Option (Option String)}
    (h : Tokens.Looked policy c store events settled) : Reads events := by
  cases h with
  | cached h => exact reads_of_current h
  | cooling h h' => exact reads_append (reads_of_current h) (reads_of_cooling h')
  | unsettled h h' => exact reads_append (reads_of_current h) (reads_of_cooling h')

theorem reads_of_renewed {request renewed : Request}
    (h : Transport.Renewed policy c request store events renewed) : Reads events := by
  cases h with
  | tokenless => simp [Reads]
  | same _ h => exact reads_of_current h
  | renewed _ h => exact reads_of_current h

theorem path_of_renewed {request renewed : Request}
    (h : Transport.Renewed policy c request store events renewed) :
    renewed.path = request.path := by
  cases h <;> rfl

/-! ## Requests for a token -/

theorem answer_of_verdict {answer : Except Failure Response}
    (h : Tokens.verdict answer = .error .cancelled) : answer = .error .cancelled := by
  cases answer with
  | error failure => exact congrArg Except.error (Except.error.inj h)
  | ok response =>
      unfold Tokens.verdict at h
      dsimp only at h
      split at h
      next =>
        unfold Response.decode at h
        split at h
        next reply _ => exact absurd h reply.granted_ne_cancelled
        next => cases h
      next => cases h

theorem absent_of_refreshed {token : Except Failure String} (hpath : path ≠ "token")
    (h : Tokens.Refreshed c store events token store') : Absent path events := by
  cases h <;> simp [Absent, Event.path?, Tokens.request, Request.post, hpath.symm]

theorem absent_of_acquired {token : Except Failure (Option String)} (hpath : path ≠ "token")
    (h : Tokens.Acquired policy c store events token store') : Absent path events := by
  cases h with
  | incomplete => exact absent_nil
  | settled _ hlook => exact (reads_of_looked hlook).absent path
  | abandoned _ hlook =>
      refine absent_append.mpr ⟨(reads_of_looked hlook).absent path, ?_⟩
      simp [Absent, Event.path?]
  | settledLate _ hlook hlook' =>
      refine absent_append.mpr ⟨(reads_of_looked hlook).absent path, absent_cons.mpr ?_⟩
      exact ⟨by simp [Event.path?], (reads_of_looked hlook').absent path⟩
  | refreshed _ hlook hlook' hrefresh =>
      refine absent_append.mpr ⟨(reads_of_looked hlook).absent path, absent_cons.mpr ?_⟩
      refine ⟨by simp [Event.path?], absent_append.mpr ?_⟩
      exact ⟨(reads_of_looked hlook').absent path, absent_of_refreshed hpath hrefresh⟩

theorem refusal?_of_refreshed {token : Except Failure String}
    (h : Tokens.Refreshed c store events token store') :
    events.findSome? (Event.refusal? c) =
      match token with
      | .ok _ => none
      | .error failure => some failure := by
  cases h with
  | granted now h => simp [Event.refusal?, Tokens.request, Request.post, h]
  | rejected now h hrejection =>
      simp [Event.refusal?, Tokens.request, Request.post, h, Tokens.reported, hrejection]
  | failed h hrejection hsent =>
      simp [Event.refusal?, Tokens.request, Request.post, h, Tokens.reported, hrejection]

theorem refusal?_of_acquired {token : Except Failure (Option String)}
    (hevents : Uncancelled events)
    (h : Tokens.Acquired policy c store events token store') :
    events.findSome? (Event.refusal? c) =
      match token with
      | .ok _ => none
      | .error failure => some failure := by
  cases h with
  | incomplete => rfl
  | settled _ hlook => exact (reads_of_looked hlook).refusal?_eq_none
  | abandoned _ hlook =>
      obtain ⟨-, hwait⟩ := uncancelled_append.mp hevents
      cases hwait _ (List.mem_singleton_self _)
  | settledLate _ hlook hlook' =>
      rw [List.findSome?_append, (reads_of_looked hlook).refusal?_eq_none]
      exact (reads_of_looked hlook').refusal?_eq_none
  | @refreshed first second rest token _ _ hlook hlook' hrefresh =>
      rw [List.findSome?_append, (reads_of_looked hlook).refusal?_eq_none, Option.none_or,
        List.findSome?_cons]
      dsimp only [Event.refusal?]
      rw [List.findSome?_append, (reads_of_looked hlook').refusal?_eq_none, Option.none_or,
        refusal?_of_refreshed hrefresh]
      cases token <;> rfl

theorem not_cancelled_of_acquired {failure : Failure} (hevents : Uncancelled events)
    (h : Tokens.Acquired policy c store events (.error failure) store') :
    failure ≠ .cancelled := by
  generalize hresult : Except.error failure = token at h
  cases h with
  | incomplete => cases hresult
  | settled => cases hresult
  | abandoned =>
      obtain ⟨-, hwait⟩ := uncancelled_append.mp hevents
      cases hwait _ (List.mem_singleton_self _)
  | settledLate => cases hresult
  | refreshed _ _ _ hrefresh =>
      cases hrefresh with
      | granted => cases hresult
      | rejected =>
          cases hresult
          simp
      | failed h =>
          cases hresult
          rintro rfl
          have hrest := (uncancelled_cons.mp (uncancelled_append.mp hevents).2).2
          have hask := (uncancelled_append.mp hrest).2 _ (List.mem_singleton_self _)
          rw [answer_of_verdict h] at hask
          cases hask

/-! ## Requests of a stage -/

variable {retryAllowed : Bool} {request : Request} {result : Except Failure Response}

theorem outcome?_of_sent (hpath : request.path ≠ "token") (hevents : Uncancelled events)
    (h : Transport.Sent policy retryAllowed c request store events result store') :
    outcome? c request.path events = some result := by
  cases h with
  | broken h hsent => exact outcome?_attempt (path_of_renewed h) absent_nil
  | final h hretry =>
      rw [outcome?_attempt (path_of_renewed h) absent_nil, settle_nil]
  | @tokenFailed _ _ response rest failure store' h hretry hacquire =>
      have hrest := (uncancelled_cons.mp (uncancelled_append.mp hevents).2).2
      rw [outcome?_attempt (path_of_renewed h) (absent_of_acquired hpath hacquire)]
      have hsuccess : response.isSuccess = false := by
        simp only [Transport.mayRetry, Bool.and_eq_true, Bool.not_eq_true'] at hretry
        exact hretry.1.1
      simp [settle, hsuccess, refusal?_of_acquired hrest hacquire]
  | @tokenless _ _ response rest store' h hretry hacquire =>
      have hrest := (uncancelled_cons.mp (uncancelled_append.mp hevents).2).2
      rw [outcome?_attempt (path_of_renewed h) (absent_of_acquired hpath hacquire)]
      have hsuccess : response.isSuccess = false := by
        simp only [Transport.mayRetry, Bool.and_eq_true, Bool.not_eq_true'] at hretry
        exact hretry.1.1
      simp [settle, hsuccess, refusal?_of_acquired hrest hacquire]
  | @retried first renewed response rest token sent answer store' h hretry hacquire hsent =>
      have hrenewed := path_of_renewed h
      have hrepeated : (renewed.withToken token).path = request.path := hrenewed
      rw [← List.cons_append, ← List.append_assoc, outcome?_attempt hrepeated absent_nil,
        settle_nil]

theorem absent_of_sent (hpath : path ≠ "token") (hother : path ≠ request.path)
    (h : Transport.Sent policy retryAllowed c request store events result store') :
    Absent path events := by
  have hask {asked : Request} {sent : Bool} {answer : Except Failure Response}
      (h : asked.path = request.path) :
      (Event.exchange asked sent answer).path? ≠ some path := by
    rw [Event.path?, h]
    exact fun h => hother (Option.some.inj h).symm
  have hreads {events : List Event} {renewed : Request}
      (h : Transport.Renewed policy c request store events renewed) : Absent path events :=
    (reads_of_renewed h).absent path
  cases h with
  | broken h =>
      refine absent_append.mpr ⟨hreads h, absent_cons.mpr ⟨?_, absent_nil⟩⟩
      exact hask (path_of_renewed h)
  | final h =>
      refine absent_append.mpr ⟨hreads h, absent_cons.mpr ⟨?_, absent_nil⟩⟩
      exact hask (path_of_renewed h)
  | tokenFailed h _ hacquire =>
      refine absent_append.mpr ⟨hreads h, absent_cons.mpr ⟨hask (path_of_renewed h), ?_⟩⟩
      exact absent_of_acquired hpath hacquire
  | tokenless h _ hacquire =>
      refine absent_append.mpr ⟨hreads h, absent_cons.mpr ⟨hask (path_of_renewed h), ?_⟩⟩
      exact absent_of_acquired hpath hacquire
  | @retried _ renewed _ _ token _ _ _ h _ hacquire =>
      have hrenewed := path_of_renewed h
      have hrepeated : (renewed.withToken token).path = request.path := hrenewed
      refine absent_append.mpr ⟨hreads h, absent_cons.mpr ⟨hask hrenewed, ?_⟩⟩
      refine absent_append.mpr ⟨absent_of_acquired hpath hacquire, ?_⟩
      exact absent_cons.mpr ⟨hask hrepeated, absent_nil⟩

theorem judged_ne_cancelled {answer : Except Failure Response}
    (h : answer ≠ .error .cancelled) : Transport.judged answer ≠ .error .cancelled := by
  cases answer with
  | error failure => exact h
  | ok response =>
      unfold Transport.judged
      dsimp only
      split <;> simp [Response.failure]

theorem answer_ne_cancelled {sent : Bool} {answer : Except Failure Response}
    (h : (Event.exchange request sent answer).isCancelled = false) :
    answer ≠ .error .cancelled := by
  rintro rfl
  cases h

theorem not_cancelled_of_sent (hevents : Uncancelled events)
    (h : Transport.Sent policy retryAllowed c request store events result store') :
    result ≠ .error .cancelled := by
  have hlast {before : List Event} {event : Event} (h : Uncancelled (before ++ [event])) :
      event.isCancelled = false :=
    (uncancelled_append.mp h).2 _ (List.mem_singleton_self _)
  cases h with
  | broken => exact answer_ne_cancelled (hlast hevents)
  | final => exact judged_ne_cancelled (by simp)
  | tokenFailed h _ hacquire =>
      have hrest := (uncancelled_cons.mp (uncancelled_append.mp hevents).2).2
      have hfailure := not_cancelled_of_acquired hrest hacquire
      simpa using hfailure
  | tokenless => simp [Response.failure]
  | retried =>
      rw [← List.cons_append, ← List.append_assoc] at hevents
      exact judged_ne_cancelled (answer_ne_cancelled (hlast hevents))

end Stage

/-! ## Operations without a request to a path -/

namespace Operation

open Stage

structure Avoids (path : String) (op : Operation α) : Prop where
  absent : ∀ {store events result store'}, op.Runs store events result store' →
    Absent path events

variable {path : String} {policy : TokenPolicy} {c : Credentials}

theorem avoids_pure (a : α) : (pure a : Operation α).Avoids path where
  absent h := by
    obtain ⟨rfl, -⟩ := runs_pure.mp h
    exact absent_nil

theorem avoids_throw (failure : Failure) : (throw failure : Operation α).Avoids path where
  absent h := by
    obtain ⟨rfl, -⟩ := runs_throw.mp h
    exact absent_nil

theorem avoids_ofExcept (result : Except Failure α) :
    (Operation.ofExcept result).Avoids path where
  absent h := by
    obtain ⟨rfl, -⟩ := runs_ofExcept.mp h
    exact absent_nil

theorem Avoids.bind {op : Operation α} {f : α → Operation β} (h : op.Avoids path)
    (hf : ∀ a, (f a).Avoids path) : (op >>= f).Avoids path where
  absent hrun := by
    rw [runs_bind] at hrun
    obtain ⟨_, hop, -⟩ | ⟨first, rest, a, store₁, rfl, hop, hrest⟩ := hrun
    · exact h.absent hop
    · exact absent_append.mpr ⟨h.absent hop, (hf a).absent hrest⟩

theorem Avoids.outcome {op : Operation α} (h : op.Avoids path) :
    op.outcome.Avoids path where
  absent hrun := by
    obtain ⟨_, hop, -⟩ := runs_outcome.mp hrun
    exact h.absent hop

theorem avoids_acquire (hpath : path ≠ "token") :
    (Tokens.acquire policy c).Avoids path where
  absent h := absent_of_acquired hpath (Tokens.acquire_path h)

theorem avoids_send {retryAllowed : Bool} {request : Request} (hpath : path ≠ "token")
    (hother : path ≠ request.path) :
    (Transport.send policy retryAllowed c request).Avoids path where
  absent h := absent_of_sent hpath hother (Transport.send_path h)

end Operation

end ProgramGuide
