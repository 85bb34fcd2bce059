import ProgramGuide.Proofs.Service.Cancellation
import ProgramGuide.Proofs.Service.Isolation

/-!
# The window of a listing

The service is asked for whole days.  What it sends is all in the listing, whether or not
it airs within the window that the listing was asked for.
-/

namespace ProgramGuide

/-- What begins by the end of a window and does not end before the window does begin. -/
structure AirsWithin (first last start stop : Instant) : Prop where
  begins : last.before start = false
  ends : stop.before first = false

instance (first last start stop : Instant) : Decidable (AirsWithin first last start stop) :=
  decidable_of_iff (last.before start = false ∧ stop.before first = false)
    ⟨fun ⟨begins, ends⟩ => ⟨begins, ends⟩, fun ⟨begins, ends⟩ => ⟨begins, ends⟩⟩

namespace Listing

open Operation Stage

variable {provider : Provider} {account : Account} {channel : String} {first last : Instant}
variable {policy : TokenPolicy} {c : Credentials} {store store' : TokenStore}
variable {events : List Event}

/-- The airings in the last answer to a request for a schedule, as far as there are any. -/
def sentAirings (c : Credentials) (events : List Event) : List Airing :=
  match outcome? c "schedules" events with
  | some (.ok response) =>
      match response.decode "schedules" (Json.list? ScheduleDay.ofJson?) with
      | .ok days => airingsOf days
      | .error _ => []
  | _ => []

def airings : Option (String × ScheduleBatch) → List Airing
  | none => []
  | some (_, batch) => batch.airings

theorem sentAirings_of_absent (h : Absent "schedules" events) : sentAirings c events = [] := by
  unfold sentAirings
  rw [outcome?_of_absent h]

theorem sentAirings_of_batch? {dates : List String} {batch : ScheduleBatch}
    {programs : Option (Except Failure Response)} (hdates : dates.isEmpty = false)
    (h : batch? dates (outcome? c "schedules" events) programs = some (.ok batch)) :
    sentAirings c events = batch.airings := by
  unfold sentAirings
  cases houtcome : outcome? c "schedules" events with
  | none => simp [batch?, hdates, houtcome] at h
  | some outcome =>
      cases outcome with
      | error failure => simp [batch?, hdates, houtcome, Except.bind] at h
      | ok response =>
          dsimp only
          cases hdays : response.decode "schedules" (Json.list? ScheduleDay.ofJson?) with
          | error failure => simp [batch?, hdates, houtcome, Except.bind, hdays] at h
          | ok days =>
              rw [houtcome, batch?_of_days hdates hdays] at h
              split at h
              next =>
                cases h
                rfl
              next =>
                obtain ⟨outcome, -, hdetails⟩ := Option.map_eq_some_iff.mp h
                cases hdecode : outcome.bind
                    (·.decode "programs" (Json.list? ProgramDetails.ofJson?)) with
                | error failure => simp [hdecode, Except.map] at hdetails
                | ok details =>
                    rw [hdecode] at hdetails
                    cases hdetails
                    rfl

theorem sentAirings_of_schedule {station token : String} {dates : List String}
    {batch : ScheduleBatch} (hevents : Uncancelled events)
    (h : (Fetch.schedule policy c station dates (some token)).Runs store events (.ok batch)
      store') : sentAirings c events = batch.airings := by
  cases hdates : dates.isEmpty with
  | false => exact sentAirings_of_batch? hdates (scheduled_of_runs hevents h).batch
  | true =>
      unfold Fetch.schedule at h
      rw [hdates] at h
      obtain ⟨rfl, hbatch, -⟩ := runs_pure.mp h
      cases hbatch
      rfl

/-- A schedule that has been had says what was sent, and is not made to fail later. -/
theorem sentAirings_of_scheduled {batch : Option (String × ScheduleBatch)}
    (hevents : Uncancelled events)
    (h : (scheduled provider account channel first last).Runs store events (.ok batch)
      store') :
    sentAirings account.credentials events = airings batch ∧
      ∀ failure, outcome? account.credentials "schedules" events ≠ some (.error failure) := by
  unfold scheduled at h
  rw [runs_ofExcept_bind] at h
  obtain ⟨_, -, -, hbatch, -⟩ | ⟨_, -, h⟩ := h
  · cases hbatch
  rw [runs_bind] at h
  obtain ⟨_, -, hbatch⟩ | ⟨acquired, rest, token, store₁, rfl, hacquire, h⟩ := h
  · cases hbatch
  have habsent : Absent "schedules" acquired :=
    (avoids_acquire (by simp)).absent hacquire
  cases token with
  | none =>
      obtain ⟨rfl, hbatch, -⟩ := runs_pure.mp h
      cases hbatch
      rw [List.append_nil]
      exact ⟨sentAirings_of_absent habsent, by simp [outcome?_of_absent habsent]⟩
  | some token =>
      dsimp only at h
      rw [runs_bind] at h
      obtain ⟨_, -, hbatch⟩ | ⟨asked, rest, fetched, store₂, rfl, hfetch, h⟩ := h
      · cases hbatch
      obtain ⟨rfl, hbatch, -⟩ := runs_pure.mp h
      cases hbatch
      rw [List.append_nil] at hevents ⊢
      have hasked := (uncancelled_append.mp hevents).2
      have hsent := sentAirings_of_schedule hasked hfetch
      unfold sentAirings at hsent ⊢
      rw [outcome?_append_left habsent]
      exact ⟨hsent, (scheduled_of_runs hasked hfetch).schedules fetched rfl⟩

theorem avoids_illustrated {batch : Option (String × ScheduleBatch)} :
    (illustrated provider account channel batch).Avoids "schedules" := by
  unfold illustrated
  cases batch with
  | none => exact avoids_pure _
  | some scheduled =>
      dsimp only
      split
      · exact avoids_pure _
      · refine .bind (avoids_artwork (by simp) (by simp)) fun artwork => ?_
        exact avoids_ofExcept _

/-! ## Records and airings -/

/-- A record of an airing, as far as its times go. -/
def Times (airing : Airing) (record : ProgramRecord) : Prop :=
  record.start = airing.start ∧ record.stop = airing.stop

theorem times_of_mergeAll {base station : String} {days : List ScheduleDay}
    {details : List ProgramDetails} {artwork : ArtworkIndex} {records : List ProgramRecord}
    (h : ProgramRecord.mergeAll station days details artwork base = .ok records) :
    List.Forall₂ Times (airingsOf days) records := by
  refine (ProgramRecord.mergeAll_eq_ok_iff.mp h).imp fun airing record hrecord => ?_
  obtain ⟨found, -, hmerge⟩ := ProgramRecord.ofAiring_eq_ok_iff.mp hrecord
  obtain ⟨identity, -, rfl⟩ := ProgramRecord.merge?_eq_some_iff.mp hmerge
  exact ⟨rfl, rfl⟩

theorem times_of_illustrated {batch : Option (String × ScheduleBatch)}
    {records : List ProgramRecord}
    (h : (illustrated provider account channel batch).Runs store events (.ok records)
      store') : List.Forall₂ Times (airings batch) records := by
  unfold illustrated at h
  cases batch with
  | none =>
      obtain ⟨-, hrecords, -⟩ := runs_pure.mp h
      cases hrecords
      exact .nil
  | some scheduled =>
      obtain ⟨token, batch⟩ := scheduled
      dsimp only at h
      split at h
      next hempty =>
        obtain ⟨-, hrecords, -⟩ := runs_pure.mp h
        cases hrecords
        have hairings : airings (some (token, batch)) = [] := List.isEmpty_iff.mp hempty
        rw [hairings]
        exact .nil
      next =>
        rw [runs_bind] at h
        obtain ⟨_, -, hrecords⟩ | ⟨_, _, artwork, _, rfl, -, h⟩ := h
        · cases hrecords
        · obtain ⟨-, hmerge, -⟩ := runs_ofExcept.mp h
          exact times_of_mergeAll hmerge.symm

theorem forall_within_iff {airings : List Airing} {records : List ProgramRecord}
    (h : List.Forall₂ Times airings records) :
    (∀ record ∈ records, AirsWithin first last record.start record.stop) ↔
      ∀ airing ∈ airings, AirsWithin first last airing.start airing.stop := by
  induction h with
  | nil => simp
  | cons htimes _ ih => rw [List.forall_mem_cons, List.forall_mem_cons, ih, htimes.1, htimes.2]

theorem uncancelled_of_ok {records : List ProgramRecord} {o : Outside}
    (h : ((provider.programs account channel first last).play store o).result =
      .ok records) :
    Uncancelled ((provider.programs account channel first last).play store o).events := by
  have hheeds : (provider.programs account channel first last).Heeds :=
    Provider.heeds_programs
  have hhalts := hheeds.task.play store o
  change Task.Halts _ _ ((provider.programs account channel first last).play store o).result
    at hhalts
  rw [h] at hhalts
  generalize hplayed : (Task.play _ store o).events = events at hhalts
  cases hhalts with
  | through hevents => exact hplayed ▸ hevents
  | cut _ _ hcancelled => cases hcancelled

end Listing

open Listing in
/-- No airing is left out for its time: a listing has one record for each that was sent, in
their order, so it is within its window when all that was sent is. -/
theorem Provider.within_iff {provider : Provider} {account : Account} {channel : String}
    {first last : Instant} {store : TokenStore} {o : Outside}
    {records : List ProgramRecord}
    (h : ((provider.programs account channel first last).play store o).result =
      .ok records) :
    let played := (provider.programs account channel first last).play store o
    List.Forall₂ Times (sentAirings account.credentials played.events) records ∧
      ((∀ record ∈ records, AirsWithin first last record.start record.stop) ↔
        ∀ airing ∈ sentAirings account.credentials played.events,
          AirsWithin first last airing.start airing.stop) := by
  intro played
  have hevents : Uncancelled played.events := uncancelled_of_ok h
  have hruns := Operation.play_runs (provider.programs account channel first last) store o
  rw [h] at hruns
  suffices htimes : List.Forall₂ Times (sentAirings account.credentials played.events)
      records from ⟨htimes, forall_within_iff htimes⟩
  change Operation.Runs _ store played.events _ played.store at hruns
  generalize played.events = events at hruns hevents
  rw [programs_eq_bind, Operation.runs_bind] at hruns
  obtain ⟨_, -, hrecords⟩ | ⟨begun, rest, batch, store₁, rfl, hscheduled, hrest⟩ := hruns
  · cases hrecords
  obtain ⟨hsent, hfail⟩ :=
    sentAirings_of_scheduled (Stage.uncancelled_append.mp hevents).1 hscheduled
  have hsame : sentAirings account.credentials (begun ++ rest) = airings batch := by
    unfold sentAirings at hsent ⊢
    rwa [Stage.outcome?_append_right (avoids_illustrated.absent hrest) hfail]
  rw [hsame]
  exact times_of_illustrated hrest

namespace Listing

/-- One hour after midnight, on a day with a program in the evening. -/
def midnightHour : Played (Except Failure (List ProgramRecord)) :=
  (plainProvider.programs viewerAccount "20454" ⟨1704412800, 0⟩ ⟨1704416400, 0⟩).play .empty
    (answering evening)

def midnightRecords : List ProgramRecord := midnightHour.result.toOption.getD []

end Listing

open Listing in
theorem Provider.within_iff_midnight :
    midnightHour.result = .ok midnightRecords ∧
      ((∀ record ∈ midnightRecords,
          AirsWithin ⟨1704412800, 0⟩ ⟨1704416400, 0⟩ record.start record.stop) ↔
        ∀ airing ∈ sentAirings viewerAccount.credentials midnightHour.events,
          AirsWithin ⟨1704412800, 0⟩ ⟨1704416400, 0⟩ airing.start airing.stop) := by
  have hrecords : midnightHour.result = .ok midnightRecords := by decide +kernel
  exact ⟨hrecords, (within_iff hrecords).2⟩

open Listing in
theorem Provider.not_within_of_evening :
    midnightHour.result = .ok midnightRecords ∧
      ¬∀ record ∈ midnightRecords,
        AirsWithin ⟨1704412800, 0⟩ ⟨1704416400, 0⟩ record.start record.stop := by
  decide +kernel

end ProgramGuide
