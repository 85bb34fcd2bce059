import ProgramGuide.Service.Task

/-!
# Contracts of tasks

A task works on a store that others may change between any two of its steps.  A contract
says what the others may do and what the task may do itself; a task meets it when each
of its steps does, whatever the others have done before.
-/

namespace ProgramGuide

/-- What tasks share: the store and the clock. -/
structure Scene where
  store : TokenStore
  now : Instant
  deriving DecidableEq, Repr

/-- What may be done in a scene, as long as a task holds the refresh lock or does not. -/
structure Contract where
  /-- What the others may have done by the next step. -/
  rely : Bool → Scene → Scene → Prop
  mayAmend : Bool → Scene → TokenStore → Prop
  mayLock : Scene → Prop
  mayAsk : Bool → Scene → Request → Prop

namespace Task

/-- The task, begun in a scene, keeps the contract up to its end, where the
postcondition holds. -/
def Meets (K : Contract) : Task α → (α → Bool → Scene → Prop) → Bool → Scene → Prop
  | done a, post, held, s => post a held s
  | clock next, post, held, s =>
      ∀ s', K.rely held s s' → (next s'.now).Meets K post held s'
  | inspect next, post, held, s =>
      ∀ s', K.rely held s s' → (next s'.store).Meets K post held s'
  | amend change next, post, held, s =>
      ∀ s', K.rely held s s' →
        K.mayAmend held s' (change s'.store) ∧
          next.Meets K post held { s' with store := change s'.store }
  | lock next, post, held, s =>
      held = false ∧ ∀ s', K.rely false s s' →
        K.mayLock s' ∧ (next true).Meets K post true s' ∧ (next false).Meets K post false s'
  | unlock next, post, held, s =>
      held = true ∧ ∀ s', K.rely true s s' → next.Meets K post false s'
  | exchange request next, post, held, s =>
      ∀ s', K.rely held s s' →
        K.mayAsk held s' request ∧
          ∀ result s'', K.rely held s' s'' → (next result).Meets K post held s''

variable {K : Contract} {held : Bool} {s s' : Scene}

theorem meets_bind (t : Task α) (f : α → Task β) (post : β → Bool → Scene → Prop) :
    (t.bind f).Meets K post held s ↔
      t.Meets K (fun a held s => (f a).Meets K post held s) held s := by
  induction t generalizing held s with
  | done => rfl
  | clock _ ih => exact forall₂_congr fun _ _ => ih _
  | inspect _ ih => exact forall₂_congr fun _ _ => ih _
  | amend _ _ ih => exact forall₂_congr fun _ _ => and_congr_right fun _ => ih
  | lock _ ih =>
      exact and_congr_right fun _ => forall₂_congr fun _ _ =>
        and_congr_right fun _ => and_congr (ih _) (ih _)
  | unlock _ ih => exact and_congr_right fun _ => forall₂_congr fun _ _ => ih
  | exchange _ _ ih =>
      exact forall₂_congr fun _ _ => and_congr_right fun _ =>
        forall₃_congr fun _ _ _ => ih _

theorem Meets.mono {t : Task α} {post post' : α → Bool → Scene → Prop}
    (h : t.Meets K post held s) (hpost : ∀ a held s, post a held s → post' a held s) :
    t.Meets K post' held s := by
  induction t generalizing held s with
  | done => exact hpost _ _ _ h
  | clock _ ih => exact fun s' hs => ih _ (h s' hs)
  | inspect _ ih => exact fun s' hs => ih _ (h s' hs)
  | amend _ _ ih => exact fun s' hs => ⟨(h s' hs).1, ih (h s' hs).2⟩
  | lock _ ih =>
      refine ⟨h.1, fun s' hs => ?_⟩
      obtain ⟨hmay, htrue, hfalse⟩ := h.2 s' hs
      exact ⟨hmay, ih _ htrue, ih _ hfalse⟩
  | unlock _ ih => exact ⟨h.1, fun s' hs => ih (h.2 s' hs)⟩
  | exchange _ _ ih =>
      exact fun s' hs =>
        ⟨(h s' hs).1, fun result s'' hs' => ih _ ((h s' hs).2 result s'' hs')⟩

/-- A task that does not move keeps the contract while the others go on. -/
theorem Meets.drift {t : Task α} {post : α → Bool → Scene → Prop}
    (htrans : ∀ {a b c}, K.rely held a b → K.rely held b c → K.rely held a c)
    (hpost : ∀ a, t = done a → post a held s → post a held s') (hs : K.rely held s s')
    (h : t.Meets K post held s) : t.Meets K post held s' := by
  cases t with
  | done a => exact hpost a rfl h
  | clock => exact fun s'' hs' => h s'' (htrans hs hs')
  | inspect => exact fun s'' hs' => h s'' (htrans hs hs')
  | amend => exact fun s'' hs' => h s'' (htrans hs hs')
  | lock =>
      obtain ⟨rfl, h⟩ := h
      exact ⟨rfl, fun s'' hs' => h s'' (htrans hs hs')⟩
  | unlock =>
      obtain ⟨rfl, h⟩ := h
      exact ⟨rfl, fun s'' hs' => h s'' (htrans hs hs')⟩
  | exchange => exact fun s'' hs' => h s'' (htrans hs hs')

end Task

/-! ## Operations -/

/-- The end of a call, without the lock. -/
def Released (_ : Except Failure α) (held : Bool) (_ : Scene) : Prop := held = false

namespace Operation

def Meets (K : Contract) (op : Operation α) (post : Except Failure α → Bool → Scene → Prop)
    (held : Bool) (s : Scene) : Prop :=
  op.run.Meets K post held s

/-- An operation that keeps the contract wherever it is begun without the lock. -/
structure Keeps (K : Contract) (op : Operation α) : Prop where
  meets : ∀ s, op.Meets K Released false s

variable {K : Contract} {held : Bool} {s : Scene}
variable {post : Except Failure α → Bool → Scene → Prop}

@[simp] theorem meets_pure (a : α) :
    (pure a : Operation α).Meets K post held s ↔ post (.ok a) held s :=
  Iff.rfl

@[simp] theorem meets_throw (failure : Failure) :
    (throw failure : Operation α).Meets K post held s ↔ post (.error failure) held s :=
  Iff.rfl

@[simp] theorem meets_ofExcept (result : Except Failure α) :
    (ofExcept result).Meets K post held s ↔ post result held s :=
  Iff.rfl

theorem meets_bind (op : Operation α) (f : α → Operation β)
    (post : Except Failure β → Bool → Scene → Prop) :
    (op >>= f).Meets K post held s ↔
      op.Meets K
        (fun result held s =>
          match result with
          | .ok a => (f a).Meets K post held s
          | .error failure => post (.error failure) held s) held s := by
  refine (Task.meets_bind op.run _ post).trans (iff_of_eq ?_)
  unfold Meets
  congr 1
  funext result held s
  cases result <;> rfl

@[simp] theorem meets_now {post : Except Failure Instant → Bool → Scene → Prop} :
    now.Meets K post held s ↔ ∀ s', K.rely held s s' → post (.ok s'.now) held s' :=
  Iff.rfl

@[simp] theorem meets_store {post : Except Failure TokenStore → Bool → Scene → Prop} :
    store.Meets K post held s ↔ ∀ s', K.rely held s s' → post (.ok s'.store) held s' :=
  Iff.rfl

@[simp] theorem meets_amend {change : TokenStore → TokenStore}
    {post : Except Failure Unit → Bool → Scene → Prop} :
    (amend change).Meets K post held s ↔
      ∀ s', K.rely held s s' →
        K.mayAmend held s' (change s'.store) ∧
          post (.ok ()) held { s' with store := change s'.store } :=
  Iff.rfl

@[simp] theorem meets_exchange {request : Request}
    {post : Except Failure Response → Bool → Scene → Prop} :
    (exchange request).Meets K post held s ↔
      ∀ s', K.rely held s s' →
        K.mayAsk held s' request ∧
          ∀ result s'', K.rely held s' s'' → post result held s'' :=
  Iff.rfl

@[simp] theorem meets_outcome (op : Operation α)
    {post : Except Failure (Except Failure α) → Bool → Scene → Prop} :
    op.outcome.Meets K post held s ↔
      op.Meets K (fun result held s => post (.ok result) held s) held s :=
  Task.meets_bind op.run _ post

theorem meets_locked (op : Operation α) :
    op.locked.Meets K post false s ↔
      ∀ s', K.rely false s s' →
        K.mayLock s' ∧
        op.Meets K
          (fun result held s =>
            held = true ∧ ∀ s', K.rely true s s' → post result false s') true s' ∧
        post (.error .cancelled) false s' := by
  refine ⟨fun h s' hs => ?_, fun h => ⟨rfl, fun s' hs => ?_⟩⟩
  · obtain ⟨hmay, hop, hcancelled⟩ := h.2 s' hs
    exact ⟨hmay, (Task.meets_bind op.run _ post).mp hop, hcancelled⟩
  · obtain ⟨hmay, hop, hcancelled⟩ := h s' hs
    exact ⟨hmay, (Task.meets_bind op.run _ post).mpr hop, hcancelled⟩

theorem Meets.mono {op : Operation α} {post' : Except Failure α → Bool → Scene → Prop}
    (h : op.Meets K post held s) (hpost : ∀ result held s, post result held s →
      post' result held s) : op.Meets K post' held s :=
  Task.Meets.mono h hpost

/-! ## Operations that keep a contract -/

theorem keeps_pure (a : α) : (pure a : Operation α).Keeps K := ⟨fun _ => rfl⟩

theorem keeps_throw (failure : Failure) : (throw failure : Operation α).Keeps K :=
  ⟨fun _ => rfl⟩

theorem keeps_ofExcept (result : Except Failure α) : (ofExcept result).Keeps K :=
  ⟨fun _ => rfl⟩

theorem Keeps.bind {op : Operation α} {f : α → Operation β} (h : op.Keeps K)
    (hf : ∀ a, (f a).Keeps K) : (op >>= f).Keeps K := by
  refine ⟨fun s => (meets_bind ..).mpr ?_⟩
  refine (h.meets s).mono fun result held s hheld => ?_
  cases hheld
  cases result with
  | ok a => exact (hf a).meets s
  | error => rfl

theorem Keeps.outcome {op : Operation α} (h : op.Keeps K) : op.outcome.Keeps K := by
  refine ⟨fun s => (meets_outcome op).mpr ?_⟩
  exact (h.meets s).mono fun _ _ _ hheld => hheld

end Operation

end ProgramGuide
