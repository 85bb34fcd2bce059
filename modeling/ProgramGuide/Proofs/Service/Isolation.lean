import ProgramGuide.Proofs.Service.Listing

/-!
# Isolation of artwork

Two listings that meet the same outside up to the first request for artwork differ in
pictures and in nothing else, unless one of them is cancelled.
-/

namespace ProgramGuide

namespace Listing

/-- The part of a listing before the artwork: its token and its schedule, if any. -/
def scheduled (provider : Provider) (account : Account) (channel : String)
    (start stop : Instant) : Operation (Option (String × ScheduleBatch)) := do
  Operation.ofExcept (Provider.checkWindow channel start stop)
  match ← Tokens.acquire provider.policy account.credentials with
  | none => return none
  | some token =>
      let batch ← Fetch.schedule provider.policy account.credentials
        (Provider.station channel) ((requestDates start stop provider.zone).map Date.text)
        (some token)
      return some (token, batch)

/-- The part of a listing from the artwork on. -/
def illustrated (provider : Provider) (account : Account) (channel : String) :
    Option (String × ScheduleBatch) → Operation (List ProgramRecord)
  | none => return []
  | some (token, batch) => do
      if batch.isEmpty then return []
      let artwork ←
        Fetch.artwork provider.policy account.credentials batch.artworkProgramIds token
      Operation.ofExcept
        (ProgramRecord.mergeAll (Provider.station channel) batch.days batch.details artwork
          provider.base)

def unpictured (provider : Provider) (channel : String) :
    Option (String × ScheduleBatch) → Except Failure (List ProgramRecord)
  | none => .ok []
  | some (_, batch) =>
      if batch.isEmpty then .ok []
      else
        (ProgramRecord.mergeAll (Provider.station channel) batch.days batch.details []
          provider.base).map (List.map ProgramRecord.unpictured)

open Operation Stage

variable {provider : Provider} {account : Account} {channel : String} {start stop : Instant}
variable {policy : TokenPolicy} {c : Credentials} {store store' : TokenStore}
variable {events : List Event}

theorem programs_eq_bind :
    provider.programs account channel start stop =
      scheduled provider account channel start stop >>=
        illustrated provider account channel := by
  unfold Provider.programs scheduled
  simp only [bind_assoc]
  congr 1
  funext _
  congr 1
  funext token
  cases token with
  | none => rfl
  | some token => simp only [bind_assoc, pure_bind, illustrated]

theorem avoids_scheduled :
    (scheduled provider account channel start stop).Avoids "metadata/programs" := by
  unfold scheduled
  refine .bind (avoids_ofExcept _) fun _ => .bind (avoids_acquire (by simp)) fun token => ?_
  cases token with
  | none => exact avoids_pure _
  | some token => exact .bind avoids_schedule fun batch => avoids_pure _

theorem cancelled_of_artwork {ids : List String} {token : String} {failure : Failure}
    (h : (Fetch.artwork policy c ids token).Runs store events (.error failure) store') :
    failure = .cancelled := by
  unfold Fetch.artwork at h
  dsimp only at h
  split at h
  next => cases (runs_pure.mp h).2.1
  next =>
    rw [runs_outcome_bind] at h
    obtain ⟨first, rest, index, store₁, rfl, -, h⟩ := h
    split at h
    next => cases (runs_pure.mp h).2.1
    next => exact Except.error.inj (runs_throw.mp h).2.1
    next => cases (runs_pure.mp h).2.1

theorem unpictured_of_illustrated {batch : Option (String × ScheduleBatch)}
    {result : Except Failure (List ProgramRecord)} (hresult : result ≠ .error .cancelled)
    (h : (illustrated provider account channel batch).Runs store events result store') :
    result.map (List.map ProgramRecord.unpictured) = unpictured provider channel batch := by
  unfold illustrated at h
  unfold unpictured
  cases batch with
  | none =>
      obtain ⟨-, rfl, -⟩ := runs_pure.mp h
      rfl
  | some scheduled =>
      obtain ⟨token, batch⟩ := scheduled
      dsimp only at h ⊢
      split at h
      next hempty =>
        obtain ⟨-, rfl, -⟩ := runs_pure.mp h
        rw [if_pos hempty]
        rfl
      next hempty =>
        rw [if_neg hempty]
        rw [runs_bind] at h
        obtain ⟨failure, h, rfl⟩ | ⟨first, rest, artwork, store₁, rfl, -, h⟩ := h
        · rw [cancelled_of_artwork h] at hresult
          exact absurd rfl hresult
        · obtain ⟨-, rfl, -⟩ := runs_ofExcept.mp h
          exact ProgramRecord.mergeAll_unpictured artwork []

/-- How long a listing goes on before its first request for artwork. -/
def beforeArtwork (events : List Event) : Nat :=
  (events.takeWhile fun event => event.path? != some "metadata/programs").length

theorem length_le_beforeArtwork {rest : List Event} (h : Absent "metadata/programs" events) :
    events.length ≤ beforeArtwork (events ++ rest) := by
  unfold beforeArtwork
  have hbefore : ∀ event ∈ events, (event.path? != some "metadata/programs") = true :=
    fun event hevent => bne_iff_ne.mpr (h event hevent)
  rw [List.takeWhile_append_of_pos hbefore, List.length_append]
  omega

end Listing

open Listing in
/-- The artwork stage does not leak: whatever becomes of it, listings are the same but
for pictures. -/
theorem Provider.programs_unpictured {provider : Provider} {account : Account}
    {channel : String} {start stop : Instant} {store : TokenStore} {o o' : Outside}
    (hsame : ∀ n < beforeArtwork
      ((provider.programs account channel start stop).play store o).events, o n = o' n)
    (h : ((provider.programs account channel start stop).play store o).result ≠
      .error .cancelled)
    (h' : ((provider.programs account channel start stop).play store o').result ≠
      .error .cancelled) :
    ((provider.programs account channel start stop).play store o).result.map
        (List.map ProgramRecord.unpictured) =
      ((provider.programs account channel start stop).play store o').result.map
        (List.map ProgramRecord.unpictured) := by
  have hprefix : (scheduled provider account channel start stop).play store o =
      (scheduled provider account channel start stop).play store o' := by
    -- The first part ends before the first request for artwork.
    refine Task.play_congr _ _ fun n hn => hsame n ?_
    obtain ⟨rest, hrest⟩ := Operation.play_bind_events
      (scheduled provider account channel start stop)
      (illustrated provider account channel) store o
    rw [programs_eq_bind, hrest]
    have habsent := avoids_scheduled.absent (Operation.play_runs
      (scheduled provider account channel start stop) store o)
    exact Nat.lt_of_lt_of_le hn (length_le_beforeArtwork habsent)
  rw [programs_eq_bind, Operation.play_bind] at h h'
  rw [programs_eq_bind, Operation.play_bind, Operation.play_bind, ← hprefix]
  rw [← hprefix] at h'
  cases hresult : ((scheduled provider account channel start stop).play store o).result with
  | error failure => simp only [hresult]
  | ok batch =>
      simp only [hresult] at h h' ⊢
      rw [unpictured_of_illustrated h (Operation.play_runs ..),
        unpictured_of_illustrated h' (Operation.play_runs ..)]

open Listing in
theorem Provider.programs_unpictured_evening :
    (((plainProvider.programs viewerAccount "20454" ⟨1704412800, 0⟩ ⟨1704416400, 0⟩).play
        .empty (answering evening)).result.map (List.map ProgramRecord.unpictured)) =
      ((plainProvider.programs viewerAccount "20454" ⟨1704412800, 0⟩ ⟨1704416400, 0⟩).play
        .empty (answering ((8, "[\x7b\"programID\":\"EP01\"\x7d]") :: evening))).result.map
          (List.map ProgramRecord.unpictured) :=
  programs_unpictured (by decide +kernel) (by decide +kernel) (by decide +kernel)

end ProgramGuide
