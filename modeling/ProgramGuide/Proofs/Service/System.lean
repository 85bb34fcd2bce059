import ProgramGuide.Proofs.Service.Call
import ProgramGuide.Proofs.Service.Contract

/-!
# Systems of threads

Any number of calls run against one store, interleaved in steps as small as a look at
the store or at the clock.  Each may be cancelled wherever it waits.  What all of them
keep by contract holds in every state that a system reaches.
-/

namespace ProgramGuide

/-- What one step of a task does, to itself, to the scene and to the refresh lock, for
the thread of a number.  A task may wait for an answer to the request it stands at. -/
inductive Task.Move (i : Nat) :
    Scene → Option Nat → Task α → Bool → Scene → Option Nat → Task α → Bool → Prop
  | clock (scene holder next) :
      Move i scene holder (.clock next) false scene holder (next scene.now) false
  | inspect (scene holder next) :
      Move i scene holder (.inspect next) false scene holder (next scene.store) false
  | amend (scene holder change next) :
      Move i scene holder (.amend change next) false
        { scene with store := change scene.store } holder next false
  | lock (scene next) :
      Move i scene none (.lock next) false scene (some i) (next true) false
  | leave (scene holder next) :
      Move i scene holder (.lock next) false scene holder (next false) false
  | unlock (scene holder next) :
      Move i scene holder (.unlock next) false scene none next false
  | ask (scene holder request next) :
      Move i scene holder (.exchange request next) false
        scene holder (.exchange request next) true
  | hear (scene holder request next result) :
      Move i scene holder (.exchange request next) true scene holder (next result) false
  | cancel (scene holder request next waiting) :
      Move i scene holder (.exchange request next) waiting
        scene holder (next (.error .cancelled)) false

/-- A task within its first part moves within that part. -/
theorem Task.Move.of_bind {i : Nat} {scene scene' : Scene} {holder holder' : Option Nat}
    {waiting waiting' : Bool} {t : Task α} {k : α → Task β} {u : Task β}
    (ht : ∀ a, t ≠ .done a)
    (h : (t.bind k).Move i scene holder waiting scene' holder' u waiting') :
    ∃ t' : Task α, u = t'.bind k ∧
      t.Move i scene holder waiting scene' holder' t' waiting' := by
  cases t with
  | done a => exact absurd rfl (ht a)
  | clock =>
      cases h
      exact ⟨_, rfl, .clock ..⟩
  | inspect =>
      cases h
      exact ⟨_, rfl, .inspect ..⟩
  | amend =>
      cases h
      exact ⟨_, rfl, .amend ..⟩
  | lock =>
      cases h with
      | lock => exact ⟨_, rfl, .lock ..⟩
      | leave => exact ⟨_, rfl, .leave ..⟩
  | unlock =>
      cases h
      exact ⟨_, rfl, .unlock ..⟩
  | exchange request next =>
      cases h with
      | ask => exact ⟨.exchange request next, rfl, .ask ..⟩
      | hear => exact ⟨_, rfl, .hear ..⟩
      | cancel => exact ⟨_, rfl, .cancel ..⟩

structure Thread where
  call : Call
  task : Task (Except Failure Answer)
  waiting : Bool

/-- The scene, the thread that holds the refresh lock, and all threads by number. -/
structure System where
  scene : Scene
  holder : Option Nat
  threads : List Thread

namespace System

def start (now : Instant) : System := ⟨⟨.empty, now⟩, none, []⟩

/-- The clock moves as it may, a call begins, or a thread moves. -/
inductive Step (provider : Provider) (passes : Instant → Instant → Bool) :
    System → System → Prop
  | elapse (s : System) (now : Instant) (h : passes s.scene.now now = true) :
      Step provider passes s { s with scene := { s.scene with now } }
  | begin (s : System) (call : Call) :
      Step provider passes s
        { s with threads := s.threads ++ [⟨call, (call.operation provider).run, false⟩] }
  | move {s : System} {i : Nat} {call : Call} {task task' : Task (Except Failure Answer)}
      {waiting waiting' : Bool} {scene : Scene} {holder : Option Nat}
      (hi : s.threads[i]? = some ⟨call, task, waiting⟩)
      (h : task.Move i s.scene s.holder waiting scene holder task' waiting') :
      Step provider passes s ⟨scene, holder, s.threads.set i ⟨call, task', waiting'⟩⟩

inductive Reachable (provider : Provider) (passes : Instant → Instant → Bool) :
    System → Prop
  | start (now : Instant) : Reachable provider passes (start now)
  | step {s s' : System} (h : Reachable provider passes s)
      (hstep : Step provider passes s s') : Reachable provider passes s'

end System

/-! ## Contracts of all threads -/

namespace Contract

def asking (K : Contract) (mayAsk : Bool → Scene → Request → Prop) : Contract :=
  { K with mayAsk }

/-- What each thread may do is among what the others rely on, as at most one of them
holds the lock. -/
structure Balanced (K : Contract) (inv : Scene → Prop)
    (passes : Instant → Instant → Bool) : Prop where
  refl : ∀ {held s}, inv s → K.rely held s s
  trans : ∀ {held a b c}, K.rely held a b → K.rely held b c → K.rely held a c
  keeps : ∀ {held a b}, K.rely held a b → inv b
  elapse : ∀ {held s now}, inv s → passes s.now now = true →
    K.rely held s { s with now }
  amend : ∀ {held other s store}, inv s → K.mayAmend held s store →
    (held && other) = false → K.rely other s { s with store }

end Contract

namespace System

variable {K : Contract} {mayAsk : Call → Bool → Scene → Request → Prop}
variable {inv : Scene → Prop} {passes : Instant → Instant → Bool}
variable {provider : Provider} {s s' : System}

/-- The invariant holds and all threads keep their contracts. -/
structure Orderly (K : Contract) (mayAsk : Call → Bool → Scene → Request → Prop)
    (inv : Scene → Prop) (s : System) : Prop where
  inv : inv s.scene
  holder : ∀ i, s.holder = some i → i < s.threads.length
  threads : ∀ i (thread : Thread), s.threads[i]? = some thread →
    thread.task.Meets (K.asking (mayAsk thread.call)) Released (s.holder == some i) s.scene

private theorem meets_of_move {i : Nat} {t t' : Task α}
    {waiting waiting' : Bool} {post : α → Bool → Scene → Prop} {scene scene' : Scene}
    {holder holder' : Option Nat} (hrefl : ∀ held, K.rely held scene scene)
    (hmove : t.Move i scene holder waiting scene' holder' t' waiting')
    (h : t.Meets K post (holder == some i) scene) :
    t'.Meets K post (holder' == some i) scene' := by
  cases hmove with
  | clock => exact h scene (hrefl _)
  | inspect => exact h scene (hrefl _)
  | amend => exact (h scene (hrefl _)).2
  | lock => simpa using (h.2 scene (hrefl _)).2.1
  | leave =>
      obtain ⟨hheld, h⟩ := h
      simpa [hheld] using (h scene (hrefl _)).2.2
  | unlock => exact h.2 scene (hrefl _)
  | ask => exact h
  | hear => exact (h scene (hrefl _)).2 _ scene (hrefl _)
  | cancel => exact (h scene (hrefl _)).2 _ scene (hrefl _)

/-- To the other threads a move is one of those they rely on. -/
private theorem rely_of_move (hK : K.Balanced inv passes) {i j : Nat} (hij : j ≠ i)
    {t t' : Task α} {waiting waiting' : Bool} {post : α → Bool → Scene → Prop}
    {scene scene' : Scene} {holder holder' : Option Nat}
    {asks : Bool → Scene → Request → Prop}
    (hmove : t.Move i scene holder waiting scene' holder' t' waiting') (hinv : inv scene)
    (h : t.Meets (K.asking asks) post (holder == some i) scene) :
    K.rely (holder == some j) scene scene' ∧
      (holder' == some j) = (holder == some j) := by
  have hrefl {held : Bool} : K.rely held scene scene := hK.refl hinv
  cases hmove with
  | clock => exact ⟨hrefl, rfl⟩
  | inspect => exact ⟨hrefl, rfl⟩
  | amend =>
      refine ⟨hK.amend hinv (h scene hrefl).1 ?_, rfl⟩
      cases holder <;> simp
      omega
  | lock => exact ⟨hrefl, by simp [Ne.symm hij]⟩
  | leave => exact ⟨hrefl, rfl⟩
  | unlock =>
      have hholder : holder = some i := by simpa using h.1
      exact ⟨hrefl, by simp [hholder, Ne.symm hij]⟩
  | ask => exact ⟨hrefl, rfl⟩
  | hear => exact ⟨hrefl, rfl⟩
  | cancel => exact ⟨hrefl, rfl⟩

private theorem holder_of_move {i : Nat} {t t' : Task α} {waiting waiting' : Bool}
    {scene scene' : Scene} {holder holder' : Option Nat}
    (hmove : t.Move i scene holder waiting scene' holder' t' waiting') {j : Nat}
    (hj : holder' = some j) : holder = some j ∨ j = i := by
  cases hmove <;> first
    | exact .inl hj
    | (cases hj; exact .inr rfl)
    | cases hj

private theorem Orderly.elapse (hK : K.Balanced inv passes)
    (h : Orderly K mayAsk inv s) {now : Instant} (hnow : passes s.scene.now now = true) :
    Orderly K mayAsk inv { s with scene := { s.scene with now } } where
  inv := by
    have hrely : K.rely false s.scene { s.scene with now } := hK.elapse h.inv hnow
    exact hK.keeps hrely
  holder := h.holder
  threads i thread hi := by
    have hrely : K.rely (s.holder == some i) s.scene { s.scene with now } :=
      hK.elapse h.inv hnow
    refine (h.threads i thread hi).drift hK.trans ?_ hrely
    exact fun _ _ hend => hend

private theorem Orderly.begin (h : Orderly K mayAsk inv s) {call : Call}
    (hcall : (call.operation provider).Keeps (K.asking (mayAsk call))) :
    Orderly K mayAsk inv
      { s with
        threads := s.threads ++ [⟨call, (call.operation provider).run, false⟩] } where
  inv := h.inv
  holder i hi := by
    have := h.holder i hi
    simp only [List.length_append]
    omega
  threads i thread hi := by
    rcases Nat.lt_trichotomy i s.threads.length with hlt | heq | hgt
    · rw [List.getElem?_append_left hlt] at hi
      exact h.threads i thread hi
    · subst heq
      have hthread : thread = ⟨call, (call.operation provider).run, false⟩ := by
        simpa using hi.symm
      have hfree : (s.holder == some s.threads.length) = false := by
        cases hholder : s.holder with
        | none => rfl
        | some j =>
            have := h.holder j hholder
            simp
            omega
      subst hthread
      rw [hfree]
      exact hcall.meets s.scene
    · rw [List.getElem?_eq_none (by simp; omega)] at hi
      cases hi

private theorem Orderly.move (hK : K.Balanced inv passes) (h : Orderly K mayAsk inv s)
    {i : Nat} {call : Call} {task task' : Task (Except Failure Answer)}
    {waiting waiting' : Bool} {scene : Scene} {holder : Option Nat}
    (hi : s.threads[i]? = some ⟨call, task, waiting⟩)
    (hmove : task.Move i s.scene s.holder waiting scene holder task' waiting') :
    Orderly K mayAsk inv ⟨scene, holder, s.threads.set i ⟨call, task', waiting'⟩⟩ := by
  have hlt : i < s.threads.length := (List.getElem?_eq_some_iff.mp hi).1
  have hmeets := h.threads i _ hi
  -- The thread keeps its own contract; the others may rely on what it does.
  have hrely {j : Nat} (hij : j ≠ i) := rely_of_move hK hij hmove h.inv hmeets
  refine ⟨?_, ?_, ?_⟩
  · exact hK.keeps (hrely (Nat.succ_ne_self i)).1
  · intro j hj
    rcases holder_of_move hmove hj with hj | rfl
    · simpa using h.holder j hj
    · simpa using hlt
  · intro j other hj
    by_cases hij : j = i
    · subst hij
      have hother : ⟨call, task', waiting'⟩ = other := by simpa [hlt] using hj
      subst hother
      exact meets_of_move (fun _ => hK.refl h.inv) hmove hmeets
    · rw [List.getElem?_set_ne (Ne.symm hij)] at hj
      obtain ⟨hscene, hholder⟩ := hrely hij
      rw [hholder]
      refine (h.threads j other hj).drift hK.trans ?_ hscene
      exact fun _ _ hend => hend

/-- What every call keeps from the start, every reachable system keeps. -/
theorem orderly_of_reachable (hK : K.Balanced inv passes)
    (hstart : ∀ now, inv ⟨.empty, now⟩)
    (hcalls : ∀ call : Call, (call.operation provider).Keeps (K.asking (mayAsk call)))
    (h : Reachable provider passes s) : Orderly K mayAsk inv s := by
  induction h with
  | start now => exact ⟨hstart now, by simp [start], by simp [start]⟩
  | step _ hstep ih =>
      cases hstep with
      | elapse now hnow => exact ih.elapse hK hnow
      | begin call => exact ih.begin (hcalls call)
      | move hi hmove => exact ih.move hK hi hmove

/-- So does a task, in whatever hands the lock is, by a contract that does without it. -/
private theorem meets_of_move_of_lockless {i : Nat} {t t' : Task α}
    {waiting waiting' : Bool} {post : α → Bool → Scene → Prop} {scene scene' : Scene}
    {holder holder' : Option Nat} (hrefl : K.rely false scene scene)
    (hlock : ∀ scene, ¬K.mayLock scene)
    (hmove : t.Move i scene holder waiting scene' holder' t' waiting')
    (h : t.Meets K post false scene) : t'.Meets K post false scene' := by
  cases hmove with
  | clock => exact h scene hrefl
  | inspect => exact h scene hrefl
  | amend => exact (h scene hrefl).2
  | lock => exact absurd (h.2 scene hrefl).1 (hlock scene)
  | leave => exact absurd (h.2 scene hrefl).1 (hlock scene)
  | unlock => cases h.1
  | ask => exact h
  | hear => exact (h scene hrefl).2 _ scene hrefl
  | cancel => exact (h scene hrefl).2 _ scene hrefl

/-- A thread within a part of its task that keeps a contract is still within it after a
step, or has just come to its end, if the contract lets the others take that step. -/
theorem meets_part_of_step {post : α → Bool → Scene → Prop} {i : Nat} {call : Call}
    {t : Task α} {k : α → Task (Except Failure Answer)} {waiting : Bool}
    (hlock : ∀ scene, ¬K.mayLock scene) (hrefl : K.rely false s.scene s.scene)
    (htrans : ∀ {a b c}, K.rely false a b → K.rely false b c → K.rely false a c)
    (ht : ∀ a, t ≠ .done a) (hi : s.threads[i]? = some ⟨call, t.bind k, waiting⟩)
    (hmeets : t.Meets K post false s.scene) (hstep : Step provider passes s s')
    (hrely : K.rely false s.scene s'.scene) :
    ∃ (t' : Task α) (waiting' : Bool), s'.threads[i]? = some ⟨call, t'.bind k, waiting'⟩ ∧
      t'.Meets K post false s'.scene := by
  have hlt : i < s.threads.length := (List.getElem?_eq_some_iff.mp hi).1
  have hdrift : t.Meets K post false s'.scene :=
    hmeets.drift htrans (fun a hdone => absurd hdone (ht a)) hrely
  cases hstep with
  | elapse => exact ⟨t, waiting, hi, hdrift⟩
  | begin =>
      refine ⟨t, waiting, ?_, hdrift⟩
      rw [List.getElem?_append_left hlt]
      exact hi
  | @move j call' task task' waiting₀ waiting' scene holder hj hmove =>
      by_cases hij : i = j
      · subst hij
        rw [hi, Option.some.injEq, Thread.mk.injEq] at hj
        obtain ⟨rfl, rfl, rfl⟩ := hj
        obtain ⟨t', rfl, hpart⟩ := hmove.of_bind ht
        exact ⟨t', waiting', by simp [hlt],
          meets_of_move_of_lockless hrefl hlock hpart hmeets⟩
      · refine ⟨t, waiting, ?_, hdrift⟩
        rw [List.getElem?_set_ne (Ne.symm hij)]
        exact hi

end System

/-! ## Replaying runs -/

inductive Cue where
  | elapse (now : Instant)
  | begin (call : Call)
  /-- A thread takes its next step by itself. -/
  | go (i : Nat)
  | hear (i : Nat) (result : Except Failure Response)

/-- The next step of a task that needs no one else, unless it waits. -/
def Task.go? (i : Nat) (scene : Scene) (holder : Option Nat) :
    Task α → Bool → Option (Scene × Option Nat × Task α × Bool)
  | clock next, false => some (scene, holder, next scene.now, false)
  | inspect next, false => some (scene, holder, next scene.store, false)
  | amend change next, false =>
      some ({ scene with store := change scene.store }, holder, next, false)
  | lock next, false =>
      match holder with
      | none => some (scene, some i, next true, false)
      | some _ => none
  | unlock next, false => some (scene, none, next, false)
  | exchange request next, false => some (scene, holder, exchange request next, true)
  | _, _ => none

theorem Task.move_of_go? {i : Nat} {scene scene' : Scene} {holder holder' : Option Nat}
    {t t' : Task α} {waiting waiting' : Bool}
    (h : t.go? i scene holder waiting = some (scene', holder', t', waiting')) :
    t.Move i scene holder waiting scene' holder' t' waiting' := by
  cases waiting <;> cases t <;> try cases h
  case false.clock => exact .clock ..
  case false.inspect => exact .inspect ..
  case false.amend => exact .amend ..
  case false.lock =>
      cases holder with
      | none => cases h; exact .lock ..
      | some => cases h
  case false.unlock => exact .unlock ..
  case false.exchange => exact .ask ..

namespace System

def perform (provider : Provider) (passes : Instant → Instant → Bool) (s : System) :
    Cue → Option System
  | .elapse now =>
      if passes s.scene.now now then some { s with scene := { s.scene with now } }
      else none
  | .begin call =>
      some
        { s with threads := s.threads ++ [⟨call, (call.operation provider).run, false⟩] }
  | .go i =>
      match s.threads[i]? with
      | some ⟨call, task, waiting⟩ =>
          match task.go? i s.scene s.holder waiting with
          | some (scene, holder, task, waiting) =>
              some ⟨scene, holder, s.threads.set i ⟨call, task, waiting⟩⟩
          | none => none
      | none => none
  | .hear i result =>
      match s.threads[i]? with
      | some ⟨call, .exchange _ next, true⟩ =>
          some { s with threads := s.threads.set i ⟨call, next result, false⟩ }
      | _ => none

theorem step_of_perform {provider : Provider} {passes : Instant → Instant → Bool}
    {s s' : System} {cue : Cue} (h : s.perform provider passes cue = some s') :
    Step provider passes s s' := by
  cases cue with
  | elapse now =>
      by_cases hnow : passes s.scene.now now
      · simp only [perform, hnow, if_true, Option.some.injEq] at h
        exact h ▸ .elapse s now hnow
      · simp [perform, hnow] at h
  | begin call =>
      simp only [perform, Option.some.injEq] at h
      exact h ▸ .begin s call
  | go i =>
      simp only [perform] at h
      split at h
      next call task waiting hi =>
        split at h
        next scene holder task' waiting' hgo =>
          cases h
          exact .move hi (Task.move_of_go? hgo)
        next => cases h
      next => cases h
  | hear i result =>
      simp only [perform] at h
      split at h
      next call request next hi =>
        cases h
        exact .move hi (.hear ..)
      next => cases h

theorem reachable_of_perform {provider : Provider} {passes : Instant → Instant → Bool}
    {s s' : System} {cues : List Cue} (hs : Reachable provider passes s)
    (h : cues.foldlM (perform provider passes) s = some s') :
    Reachable provider passes s' := by
  induction cues generalizing s with
  | nil =>
      cases h
      exact hs
  | cons cue cues ih =>
      rw [List.foldlM_cons] at h
      cases hcue : s.perform provider passes cue with
      | none =>
          rw [hcue] at h
          cases h
      | some s₁ =>
          rw [hcue] at h
          exact ih (.step hs (step_of_perform hcue)) h

end System

end ProgramGuide
