import ProgramGuide.Service.Message
import ProgramGuide.Service.TokenStore

/-!
# Tasks

A task is a computation that reads the clock, works on the shared token store, waits
for the refresh lock and exchanges messages with the service.  It says what it does in
what order; who runs it decides what the clock shows, what the service answers and
which other tasks run in between.
-/

namespace ProgramGuide

inductive Task (α : Type) where
  | done (a : α)
  | clock (next : Instant → Task α)
  | inspect (next : TokenStore → Task α)
  | amend (change : TokenStore → TokenStore) (next : Task α)
  /-- Waits for the lock; without it when the caller cancels first. -/
  | lock (next : Bool → Task α)
  | unlock (next : Task α)
  | exchange (request : Request) (next : Except Failure Response → Task α)

namespace Task

def bind : Task α → (α → Task β) → Task β
  | done a, f => f a
  | clock next, f => clock fun now => (next now).bind f
  | inspect next, f => inspect fun store => (next store).bind f
  | amend change next, f => amend change (next.bind f)
  | lock next, f => lock fun held => (next held).bind f
  | unlock next, f => unlock (next.bind f)
  | exchange request next, f => exchange request fun result => (next result).bind f

instance : Monad Task where
  pure := done
  bind := bind

theorem bind_done (t : Task α) : t.bind done = t := by
  induction t with
  | done => rfl
  | amend _ _ ih => exact congrArg _ ih
  | unlock _ ih => exact congrArg _ ih
  | clock _ ih => exact congrArg clock (funext ih)
  | inspect _ ih => exact congrArg inspect (funext ih)
  | lock _ ih => exact congrArg lock (funext ih)
  | exchange _ _ ih => exact congrArg (exchange _) (funext ih)

theorem bind_bind (t : Task α) (f : α → Task β) (g : β → Task γ) :
    (t.bind f).bind g = t.bind fun a => (f a).bind g := by
  induction t with
  | done => rfl
  | amend _ _ ih => exact congrArg _ ih
  | unlock _ ih => exact congrArg _ ih
  | clock _ ih => exact congrArg clock (funext ih)
  | inspect _ ih => exact congrArg inspect (funext ih)
  | lock _ ih => exact congrArg lock (funext ih)
  | exchange _ _ ih => exact congrArg (exchange _) (funext ih)

instance : LawfulMonad Task := LawfulMonad.mk' Task
  bind_done (fun _ _ => rfl) bind_bind

end Task

abbrev Operation := ExceptT Failure Task

namespace Operation

def ofTask (t : Task (Except Failure α)) : Operation α := ExceptT.mk t

def now : Operation Instant := ofTask (.clock fun now => .done (.ok now))

def store : Operation TokenStore := ofTask (.inspect fun store => .done (.ok store))

def amend (change : TokenStore → TokenStore) : Operation Unit :=
  ofTask (.amend change (.done (.ok ())))

def exchange (request : Request) : Operation Response :=
  ofTask (.exchange request .done)

def outcome (op : Operation α) : Operation (Except Failure α) :=
  ofTask (op.run.bind fun result => .done (.ok result))

def ofExcept : Except Failure α → Operation α := fun result => ofTask (.done result)

def locked (op : Operation α) : Operation α :=
  ofTask (.lock fun held =>
    if held then op.run.bind fun result => .unlock (.done result)
    else .done (.error .cancelled))

end Operation

end ProgramGuide
