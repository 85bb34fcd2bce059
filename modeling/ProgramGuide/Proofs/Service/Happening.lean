import Mathlib.Data.List.Induction
import ProgramGuide.Proofs.Service.Play
import ProgramGuide.Proofs.Service.System

/-!
# Happenings

What happens in a system, one step at a time: which thread reads, changes or asks what.
A run is told by the list of its happenings.
-/

namespace ProgramGuide

/-- What a thread does in one step. -/
inductive Deed where
  | read (now : Instant)
  | looked (store : TokenStore)
  | amended (before after : TokenStore)
  | locked
  /-- It cancels while it waits for the lock. -/
  | left
  | unlocked
  | asked (request : Request)
  | heard (request : Request) (result : Except Failure Response)
  | cancelled (request : Request)
  deriving DecidableEq

namespace Deed

/-- Whether the scene and the lock are such as the deed has it. -/
def Allowed (scene : Scene) (holder : Option Nat) : Deed → Prop
  | read now => now = scene.now
  | looked store => store = scene.store
  | amended before _ => before = scene.store
  | locked => holder = none
  | _ => True

def scene (s : Scene) : Deed → Scene
  | amended _ after => { s with store := after }
  | _ => s

def holder (i : Nat) (h : Option Nat) : Deed → Option Nat
  | locked => some i
  | unlocked => none
  | _ => h

def held (before : Bool) : Deed → Bool
  | locked => true
  | unlocked => false
  | _ => before

def quiet : Deed → Bool
  | amended _ _ => false
  | asked _ => false
  | heard _ _ => false
  | _ => true

def givesUp : Deed → Bool
  | left => true
  | cancelled _ => true
  | _ => false

end Deed

inductive Task.Does : Task α → Bool → Deed → Task α → Bool → Prop
  | clock (next now) : Does (.clock next) false (.read now) (next now) false
  | inspect (next store) : Does (.inspect next) false (.looked store) (next store) false
  | amend (change next store) :
      Does (.amend change next) false (.amended store (change store)) next false
  | lock (next) : Does (.lock next) false .locked (next true) false
  | leave (next) : Does (.lock next) false .left (next false) false
  | unlock (next) : Does (.unlock next) false .unlocked next false
  | ask (request next) :
      Does (.exchange request next) false (.asked request) (.exchange request next) true
  | hear (request next result) :
      Does (.exchange request next) true (.heard request result) (next result) false
  | cancel (request next waiting) :
      Does (.exchange request next) waiting (.cancelled request) (next (.error .cancelled))
        false

theorem Task.move_iff {i : Nat} {scene scene' : Scene} {holder holder' : Option Nat}
    {t t' : Task α} {waiting waiting' : Bool} :
    t.Move i scene holder waiting scene' holder' t' waiting' ↔
      ∃ deed : Deed, t.Does waiting deed t' waiting' ∧ deed.Allowed scene holder ∧
        scene' = deed.scene scene ∧ holder' = deed.holder i holder := by
  constructor
  · intro h
    cases h with
    | clock => exact ⟨_, .clock .., rfl, rfl, rfl⟩
    | inspect => exact ⟨_, .inspect .., rfl, rfl, rfl⟩
    | amend => exact ⟨_, .amend .., rfl, rfl, rfl⟩
    | lock => exact ⟨_, .lock .., rfl, rfl, rfl⟩
    | leave => exact ⟨_, .leave .., trivial, rfl, rfl⟩
    | unlock => exact ⟨_, .unlock .., trivial, rfl, rfl⟩
    | ask => exact ⟨_, .ask .., trivial, rfl, rfl⟩
    | hear => exact ⟨_, .hear .., trivial, rfl, rfl⟩
    | cancel => exact ⟨_, .cancel .., trivial, rfl, rfl⟩
  · rintro ⟨deed, hdoes, hallowed, rfl, rfl⟩
    cases hdoes with
    | clock =>
        cases hallowed
        exact .clock ..
    | inspect =>
        cases hallowed
        exact .inspect ..
    | amend =>
        cases hallowed
        exact .amend ..
    | lock =>
        cases hallowed
        exact .lock ..
    | leave => exact .leave ..
    | unlock => exact .unlock ..
    | ask => exact .ask ..
    | hear => exact .hear ..
    | cancel => exact .cancel ..

theorem Task.bind_ne_done {t : Task α} {k : α → Task β} (ht : ∀ a, t ≠ .done a) (b : β) :
    t.bind k ≠ .done b := by
  cases t with
  | done a => exact absurd rfl (ht a)
  | _ => nofun

theorem Task.bind_ne_lock {t : Task α} {k : α → Task β} (ht : ∀ a, t ≠ .done a)
    (hlock : ∀ next, t ≠ .lock next) (next : Bool → Task β) : t.bind k ≠ .lock next := by
  cases t with
  | done a => exact absurd rfl (ht a)
  | lock next => exact absurd rfl (hlock next)
  | _ => nofun

theorem Task.exists_exchange_of_bind {t : Task α} {k : α → Task β} {request : Request}
    {next : Except Failure Response → Task β} (ht : ∀ a, t ≠ .done a)
    (h : t.bind k = .exchange request next) : ∃ next', t = .exchange request next' := by
  cases t with
  | done a => exact absurd rfl (ht a)
  | exchange request' next' =>
      cases h
      exact ⟨next', rfl⟩
  | _ => cases h

/-- A task within its first part does only what that part does. -/
theorem Task.Does.of_bind {t : Task α} {k : α → Task β} {u : Task β} {deed : Deed}
    {waiting waiting' : Bool} (ht : ∀ a, t ≠ .done a)
    (h : (t.bind k).Does waiting deed u waiting') :
    ∃ t' : Task α, u = t'.bind k ∧ t.Does waiting deed t' waiting' := by
  cases t with
  | done a => exact absurd rfl (ht a)
  | clock =>
      cases h
      exact ⟨_, rfl, .clock ..⟩
  | inspect =>
      cases h
      exact ⟨_, rfl, .inspect ..⟩
  | amend =>
      cases h
      exact ⟨_, rfl, .amend ..⟩
  | lock =>
      cases h with
      | lock => exact ⟨_, rfl, .lock ..⟩
      | leave => exact ⟨_, rfl, .leave ..⟩
  | unlock =>
      cases h
      exact ⟨_, rfl, .unlock ..⟩
  | exchange request next =>
      cases h with
      | ask => exact ⟨.exchange request next, rfl, .ask ..⟩
      | hear => exact ⟨_, rfl, .hear ..⟩
      | cancel => exact ⟨_, rfl, .cancel ..⟩

/-- A task that is not done has something to do, unless it waits for the lock. -/
theorem Task.exists_does {t : Task α} {waiting : Bool} {holder : Option Nat} (scene : Scene)
    (ht : ∀ a, t ≠ .done a)
    (hwaiting : waiting = true → ∃ request next, t = .exchange request next)
    (hlock : ∀ next, t = .lock next → holder = none) :
    ∃ (deed : Deed) (t' : Task α) (waiting' : Bool), t.Does waiting deed t' waiting' ∧
      deed.Allowed scene holder ∧ deed.givesUp = false := by
  cases waiting with
  | true =>
      obtain ⟨request, next, rfl⟩ := hwaiting rfl
      exact ⟨_, _, _, .hear request next (.error .network), trivial, rfl⟩
  | false =>
      cases t with
      | done a => exact absurd rfl (ht a)
      | clock next => exact ⟨_, _, _, .clock next scene.now, rfl, rfl⟩
      | inspect next => exact ⟨_, _, _, .inspect next scene.store, rfl, rfl⟩
      | amend change next => exact ⟨_, _, _, .amend change next scene.store, rfl, rfl⟩
      | lock next => exact ⟨_, _, _, .lock next, hlock next rfl, rfl⟩
      | unlock next => exact ⟨_, _, _, .unlock next, trivial, rfl⟩
      | exchange request next => exact ⟨_, _, _, .ask request next, trivial, rfl⟩

inductive Happening where
  | elapsed (now : Instant)
  | begun (call : Call)
  | did (i : Nat) (deed : Deed)
  deriving DecidableEq

namespace Happening

def isDeed : Happening → Bool
  | did _ _ => true
  | _ => false

def asked? : Happening → Option Request
  | did _ (.asked request) => some request
  | _ => none

def heard? : Happening → Option (Except Failure Response)
  | did _ (.heard _ answer) => some answer
  | _ => none

def read? : Happening → Option Instant
  | did _ (.read now) => some now
  | _ => none

/-- What is in the store for a user after it has been amended. -/
def stored? (user : String) : Happening → Option IssuedToken
  | did _ (.amended _ after) => after.get? user
  | _ => none

variable {i : Nat} {deed : Deed}

theorem asked?_of_quiet (h : deed.quiet = true) : (did i deed).asked? = none := by
  cases deed <;> first
    | rfl
    | cases h

theorem heard?_of_quiet (h : deed.quiet = true) : (did i deed).heard? = none := by
  cases deed <;> first
    | rfl
    | cases h

end Happening

theorem Deed.scene_of_quiet {scene : Scene} {deed : Deed} (h : deed.quiet = true) :
    deed.scene scene = scene := by
  cases deed <;> first
    | rfl
    | cases h

namespace System

def idle (scene : Scene) : System := ⟨scene, none, []⟩

inductive Happens (provider : Provider) : System → Happening → System → Prop
  | elapse (s : System) (now : Instant) :
      Happens provider s (.elapsed now) { s with scene := { s.scene with now } }
  | begin (s : System) (call : Call) :
      Happens provider s (.begun call)
        { s with threads := s.threads ++ [⟨call, (call.operation provider).run, false⟩] }
  | act {s : System} {i : Nat} {call : Call} {task task' : Task (Except Failure Answer)}
      {waiting waiting' : Bool} {deed : Deed}
      (hi : s.threads[i]? = some ⟨call, task, waiting⟩)
      (h : task.Does waiting deed task' waiting')
      (hallowed : deed.Allowed s.scene s.holder) :
      Happens provider s (.did i deed)
        ⟨deed.scene s.scene, deed.holder i s.holder, s.threads.set i ⟨call, task', waiting'⟩⟩

variable {provider : Provider} {s s' : System}

theorem step_iff_happens :
    Step provider (fun _ _ => true) s s' ↔ ∃ happening, Happens provider s happening s' := by
  constructor
  · intro h
    cases h with
    | elapse now => exact ⟨_, .elapse s now⟩
    | begin call => exact ⟨_, .begin s call⟩
    | move hi hmove =>
        obtain ⟨deed, hdoes, hallowed, rfl, rfl⟩ := Task.move_iff.mp hmove
        exact ⟨_, .act hi hdoes hallowed⟩
  · rintro ⟨happening, h⟩
    cases h with
    | elapse now => exact .elapse s now rfl
    | begin call => exact .begin s call
    | act hi hdoes hallowed =>
        exact .move hi (Task.move_iff.mpr ⟨_, hdoes, hallowed, rfl, rfl⟩)

end System

/-! ## Runs -/

/-- A run of steps, told by what happens in each. -/
inductive Trail (R : σ → Happening → σ → Prop) (s : σ) : List Happening → σ → Prop
  | nil : Trail R s [] s
  | concat {trace : List Happening} {happening : Happening} {s' s'' : σ}
      (h : Trail R s trace s') (hnext : R s' happening s'') :
      Trail R s (trace ++ [happening]) s''

namespace Trail

variable {R : σ → Happening → σ → Prop} {s s' s'' : σ} {happening : Happening}

@[simp] theorem nil_iff : Trail R s [] s' ↔ s' = s := by
  constructor
  · intro h
    generalize htrace : ([] : List Happening) = trace at h
    cases h with
    | nil => rfl
    | concat => simp at htrace
  · rintro rfl
    exact .nil

theorem concat_iff {trace : List Happening} :
    Trail R s (trace ++ [happening]) s'' ↔ ∃ s', Trail R s trace s' ∧ R s' happening s'' := by
  constructor
  · intro h
    generalize htrace : trace ++ [happening] = whole at h
    cases h with
    | nil => simp at htrace
    | concat h hnext =>
        obtain ⟨rfl, hlast⟩ := List.append_inj' htrace rfl
        cases hlast
        exact ⟨_, h, hnext⟩
  · rintro ⟨s', h, hnext⟩
    exact .concat h hnext

theorem append_iff {first second : List Happening} :
    Trail R s (first ++ second) s'' ↔ ∃ s', Trail R s first s' ∧ Trail R s' second s'' := by
  induction second using List.reverseRecOn generalizing s'' with
  | nil => simp
  | append_singleton second happening ih =>
      rw [← List.append_assoc, concat_iff]
      constructor
      · rintro ⟨s', h, hnext⟩
        obtain ⟨s₁, hfirst, hsecond⟩ := ih.mp h
        exact ⟨s₁, hfirst, .concat hsecond hnext⟩
      · rintro ⟨s₁, hfirst, h⟩
        obtain ⟨s', hsecond, hnext⟩ := concat_iff.mp h
        exact ⟨s', ih.mpr ⟨s₁, hfirst, hsecond⟩, hnext⟩

theorem cons_iff {rest : List Happening} :
    Trail R s (happening :: rest) s'' ↔ ∃ s', R s happening s' ∧ Trail R s' rest s'' := by
  have hone {s' : σ} : Trail R s [happening] s' ↔ R s happening s' := by
    rw [← List.nil_append [happening], concat_iff]
    simp
  rw [← List.singleton_append, append_iff]
  simp only [hone]

end Trail

namespace System

def Run (provider : Provider) : System → List Happening → System → Prop :=
  Trail (Happens provider)

end System

/-! ## Replaying runs -/

/-- What a task does next if it needs no one else. -/
def Task.deed (scene : Scene) : Task α → Deed
  | clock _ => .read scene.now
  | inspect _ => .looked scene.store
  | amend change _ => .amended scene.store (change scene.store)
  | lock _ => .locked
  | unlock _ => .unlocked
  | exchange request _ => .asked request
  | done _ => .left

def Task.hearing (result : Except Failure Response) : Task α → Deed
  | exchange request _ => .heard request result
  | _ => .left

def Task.result? : Task α → Option α
  | done a => some a
  | _ => none

theorem Task.eq_done_of_result? {t : Task α} {a : α} (h : t.result? = some a) :
    t = .done a := by
  cases t <;> cases h
  rfl

theorem Task.does_of_go? {i : Nat} {scene scene' : Scene} {holder holder' : Option Nat}
    {t t' : Task α} {waiting waiting' : Bool}
    (h : t.go? i scene holder waiting = some (scene', holder', t', waiting')) :
    t.Does waiting (t.deed scene) t' waiting' ∧ (t.deed scene).Allowed scene holder ∧
      scene' = (t.deed scene).scene scene ∧ holder' = (t.deed scene).holder i holder := by
  cases waiting <;> cases t <;> try cases h
  case false.clock => exact ⟨.clock .., rfl, rfl, rfl⟩
  case false.inspect => exact ⟨.inspect .., rfl, rfl, rfl⟩
  case false.amend => exact ⟨.amend .., rfl, rfl, rfl⟩
  case false.lock =>
      cases holder with
      | none =>
          cases h
          exact ⟨.lock .., rfl, rfl, rfl⟩
      | some => cases h
  case false.unlock => exact ⟨.unlock .., trivial, rfl, rfl⟩
  case false.exchange => exact ⟨.ask .., trivial, rfl, rfl⟩

namespace System

variable {provider : Provider} {s s' : System}

def happening (s : System) : Cue → Happening
  | .elapse now => .elapsed now
  | .begin call => .begun call
  | .go i =>
      .did i ((s.threads[i]?.map fun thread => thread.task.deed s.scene).getD .left)
  | .hear i result =>
      .did i ((s.threads[i]?.map fun thread => thread.task.hearing result).getD .left)

theorem happens_of_perform {passes : Instant → Instant → Bool} {cue : Cue}
    (h : s.perform provider passes cue = some s') :
    Happens provider s (s.happening cue) s' := by
  cases cue with
  | elapse now =>
      by_cases hnow : passes s.scene.now now
      · simp only [perform, hnow, if_true, Option.some.injEq] at h
        exact h ▸ .elapse s now
      · simp [perform, hnow] at h
  | begin call =>
      simp only [perform, Option.some.injEq] at h
      exact h ▸ .begin s call
  | go i =>
      simp only [perform] at h
      split at h
      next call task waiting hi =>
        split at h
        next scene holder task' waiting' hgo =>
          cases h
          obtain ⟨hdoes, hallowed, rfl, rfl⟩ := Task.does_of_go? hgo
          simp only [happening, hi, Option.map_some, Option.getD_some]
          exact .act hi hdoes hallowed
        next => cases h
      next => cases h
  | hear i result =>
      simp only [perform] at h
      split at h
      next call request next hi =>
        cases h
        simp only [happening, hi, Option.map_some, Option.getD_some]
        exact .act hi (.hear ..) trivial
      next => cases h

/-- Follows cues and tells what happens. -/
def replay (provider : Provider) : System → List Cue → Option (List Happening × System)
  | s, [] => some ([], s)
  | s, cue :: cues =>
      (s.perform provider (fun _ _ => true) cue).bind fun s' =>
        (replay provider s' cues).map fun told => (s.happening cue :: told.1, told.2)

theorem run_of_replay {cues : List Cue} {trace : List Happening}
    (h : replay provider s cues = some (trace, s')) : Run provider s trace s' := by
  induction cues generalizing s trace with
  | nil =>
      cases h
      exact .nil
  | cons cue cues ih =>
      obtain ⟨s₁, hperform, h⟩ := Option.bind_eq_some_iff.mp h
      obtain ⟨⟨rest, s₂⟩, hreplay, htold⟩ := Option.map_eq_some_iff.mp h
      cases htold
      exact Trail.cons_iff.mpr ⟨s₁, happens_of_perform hperform, ih hreplay⟩

end System

end ProgramGuide
