import ProgramGuide.Proofs.Artwork.Index
import ProgramGuide.Proofs.Program.Merge
import ProgramGuide.Proofs.Service.Call
import ProgramGuide.Proofs.Service.Stage

/-!
# The listing of a channel

The programs of a channel are what a pure function makes of the last attempts at three
stages: schedules, programs and artwork.
-/

namespace ProgramGuide

namespace Listing

/-- The schedule in the outcomes of two stages, as far as they are needed. -/
def batch? (dates : List String) (schedules programs : Option (Except Failure Response)) :
    Option (Except Failure ScheduleBatch) :=
  if dates.isEmpty then some (.ok .empty)
  else
    schedules.bind fun outcome =>
      match outcome.bind (·.decode "schedules" (Json.list? ScheduleDay.ofJson?)) with
      | .error failure => some (.error failure)
      | .ok days =>
          if (airingsOf days).isEmpty then some (.ok ⟨days, []⟩)
          else
            programs.map fun outcome =>
              (outcome.bind (·.decode "programs" (Json.list? ProgramDetails.ofJson?))).map
                fun details => ⟨days, details⟩

/-- The artwork in the outcome of its stage: none if it failed or was not needed. -/
def artwork? (batch : ScheduleBatch) (metadata : Option (Except Failure Response)) :
    Option ArtworkIndex :=
  if (Fetch.artworkRoots batch.artworkProgramIds).isEmpty then some []
  else
    metadata.map fun outcome =>
      match outcome.bind (·.decode "metadata/programs" ShowArtwork.listOfJson?) with
      | .ok shows => .gather shows
      | .error _ => []

/-- The programs in the outcomes of the stages, unless one that is needed is missing. -/
def programs? (provider : Provider) (channel : String) (dates : List String)
    (schedules programs metadata : Option (Except Failure Response)) :
    Option (Except Failure (List ProgramRecord)) :=
  (batch? dates schedules programs).bind fun
    | .error failure => some (.error failure)
    | .ok batch =>
        if batch.isEmpty then some (.ok [])
        else
          (artwork? batch metadata).map fun artwork =>
            ProgramRecord.mergeAll (Provider.station channel) batch.days batch.details
              artwork provider.base

/-! ## Stages of a run -/

open Operation Stage

variable {policy : TokenPolicy} {c : Credentials} {store store' : TokenStore}
variable {events : List Event}

section Send

variable {retryAllowed : Bool} {request : Request} {result : Except Failure Response}

theorem outcome?_of_send (hpath : request.path ≠ "token") (hevents : Uncancelled events)
    (h : (Transport.send policy retryAllowed c request).Runs store events result store') :
    outcome? c request.path events = some result :=
  outcome?_of_sent hpath hevents (Transport.send_path h)

theorem not_cancelled_of_send (hevents : Uncancelled events)
    (h : (Transport.send policy retryAllowed c request).Runs store events result store') :
    result ≠ .error .cancelled :=
  not_cancelled_of_sent hevents (Transport.send_path h)

end Send

theorem decode_ne_cancelled {response : Response} {payload : String}
    {decode : Json → Option α} : response.decode payload decode ≠ .error .cancelled := by
  unfold Response.decode
  split <;> simp

theorem runs_payload {op : Operation Response} {payload : String} {decode : Json → Option α}
    {f : α → β} {result : Except Failure β} :
    (do
      let response ← op
      let a ← Operation.ofExcept (response.decode payload decode)
      return f a : Operation β).Runs store events result store' ↔
    ∃ outcome, op.Runs store events outcome store' ∧
      result = (outcome.bind (·.decode payload decode)).map f := by
  rw [runs_bind]
  constructor
  · rintro (⟨failure, hop, rfl⟩ | ⟨first, rest, response, store₁, rfl, hop, h⟩)
    · exact ⟨_, hop, rfl⟩
    · rw [runs_ofExcept_bind] at h
      obtain ⟨failure, hdecode, rfl, rfl, rfl⟩ | ⟨a, hdecode, h⟩ := h
      · rw [List.append_nil]
        exact ⟨_, hop, by simp [Except.bind, hdecode, Except.map]⟩
      · rw [runs_pure] at h
        obtain ⟨rfl, rfl, rfl⟩ := h
        rw [List.append_nil]
        exact ⟨_, hop, by simp [Except.bind, hdecode, Except.map]⟩
  · rintro ⟨outcome, hop, rfl⟩
    cases outcome with
    | error failure => exact .inl ⟨failure, hop, rfl⟩
    | ok response =>
        refine .inr ⟨events, [], response, store', by simp, hop, ?_⟩
        rw [runs_ofExcept_bind]
        cases hdecode : response.decode payload decode with
        | error failure =>
            refine .inl ⟨failure, rfl, rfl, ?_, rfl⟩
            simp [Except.bind, hdecode, Except.map]
        | ok a => exact .inr ⟨a, rfl, by simp [Except.bind, hdecode, Except.map]⟩

theorem batch?_of_days {dates : List String} {response : Response} {days : List ScheduleDay}
    (hdates : dates.isEmpty = false)
    (hdays : response.decode "schedules" (Json.list? ScheduleDay.ofJson?) = .ok days)
    (programs : Option (Except Failure Response)) :
    batch? dates (some (.ok response)) programs =
      if (airingsOf days).isEmpty then some (.ok ⟨days, []⟩)
      else
        programs.map fun outcome =>
          (outcome.bind (·.decode "programs" (Json.list? ProgramDetails.ofJson?))).map
            fun details => ⟨days, details⟩ := by
  unfold batch?
  rw [hdates]
  simp only [Bool.false_eq_true, if_false, Option.bind_some, Except.bind, hdays]

theorem avoids_schedule {station : String} {dates : List String} {token : Option String} :
    (Fetch.schedule policy c station dates token).Avoids "metadata/programs" := by
  unfold Fetch.schedule
  cases token with
  | none => exact avoids_pure _
  | some token =>
      dsimp only
      split
      · exact avoids_pure _
      · refine .bind (avoids_send (by simp) (by simp)) fun response => ?_
        refine .bind (avoids_ofExcept _) fun days => ?_
        split
        · exact avoids_pure _
        · refine .bind (avoids_send (by simp) (by simp)) fun response => ?_
          exact .bind (avoids_ofExcept _) fun details => avoids_pure _

theorem avoids_artwork {ids : List String} {token path : String} (htoken : path ≠ "token")
    (hother : path ≠ "metadata/programs") :
    (Fetch.artwork policy c ids token).Avoids path := by
  unfold Fetch.artwork
  dsimp only
  split
  · exact avoids_pure _
  · have hindex : (Fetch.artworkOf policy c (Fetch.artworkRoots ids) token).Avoids path := by
      refine .bind (avoids_send htoken hother) fun response => ?_
      exact .bind (avoids_ofExcept _) fun shows => avoids_pure _
    refine .bind hindex.outcome fun result => ?_
    split
    · exact avoids_pure _
    · exact avoids_throw _
    · exact avoids_pure _

/-- What a finished fetch of a schedule comes to, and what it leaves open. -/
structure Scheduled (c : Credentials) (dates : List String) (events : List Event)
    (result : Except Failure ScheduleBatch) : Prop where
  batch : batch? dates (outcome? c "schedules" events) (outcome? c "programs" events) =
    some result
  schedules : ∀ batch, result = .ok batch → ∀ failure,
    outcome? c "schedules" events ≠ some (.error failure)
  programs : ∀ batch, result = .ok batch → ∀ failure,
    outcome? c "programs" events ≠ some (.error failure)

private theorem scheduled_of_failure {dates : List String} {failure : Failure}
    (hdates : dates.isEmpty = false)
    (hschedules : outcome? c "schedules" events = some (.error failure)) :
    Scheduled c dates events (.error failure) where
  batch := by simp [batch?, hdates, hschedules, Except.bind]
  schedules := by simp
  programs := by simp

private theorem scheduled_of_details {dates : List String} {first rest : List Event}
    {response : Response} {outcome : Except Failure Response}
    {result : Except Failure ScheduleBatch}
    (hschedules : outcome? c "schedules" first = some (.ok response))
    (hprograms : outcome? c "programs" rest = some outcome)
    (hbatch : batch? dates (some (.ok response)) (some outcome) = some result)
    (hfailure : ∀ batch, result = .ok batch → ∀ failure, outcome ≠ .error failure)
    (hfirst : Absent "programs" first) (hrest : Absent "schedules" rest) :
    Scheduled c dates (first ++ rest) result := by
  have hschedules' : outcome? c "schedules" (first ++ rest) = some (.ok response) := by
    rw [outcome?_append_right hrest (by simp [hschedules]), hschedules]
  have hprograms' : outcome? c "programs" (first ++ rest) = some outcome := by
    rw [outcome?_append_left hfirst, hprograms]
  refine ⟨?_, ?_, ?_⟩
  · rw [hschedules', hprograms', hbatch]
  · simp [hschedules']
  · intro batch hresult failure houtcome
    rw [hprograms'] at houtcome
    exact hfailure batch hresult failure (Option.some.inj houtcome)

theorem scheduled_of_runs {station token : String} {dates : List String}
    {result : Except Failure ScheduleBatch} (hevents : Uncancelled events)
    (h : (Fetch.schedule policy c station dates (some token)).Runs store events result
      store') : Scheduled c dates events result := by
  unfold Fetch.schedule at h
  dsimp only at h
  split at h
  next hdates =>
    rw [runs_pure] at h
    obtain ⟨rfl, rfl, rfl⟩ := h
    exact ⟨by simp [batch?, hdates], by simp [outcome?], by simp [outcome?]⟩
  next hdates =>
    have hdates : dates.isEmpty = false := by simpa using hdates
    rw [runs_bind] at h
    obtain ⟨failure, hsend, rfl⟩ | ⟨first, rest, response, store₁, rfl, hsend, h⟩ := h
    · exact scheduled_of_failure hdates (outcome?_of_send (by simp) hevents hsend)
    · obtain ⟨hfirst, hrest⟩ := uncancelled_append.mp hevents
      have hschedules : outcome? c "schedules" first = some (.ok response) :=
        outcome?_of_send (by simp) hfirst hsend
      have habsent : Absent "programs" first :=
        (avoids_send (by simp) (by simp)).absent hsend
      rw [runs_ofExcept_bind] at h
      obtain ⟨failure, hdays, rfl, rfl, rfl⟩ | ⟨days, hdays, h⟩ := h
      · rw [List.append_nil]
        refine ⟨?_, by simp, by simp⟩
        simp [batch?, hdates, hschedules, Except.bind, hdays]
      · split at h
        next hids =>
          rw [distinctProgramIds_isEmpty] at hids
          rw [runs_pure] at h
          obtain ⟨rfl, rfl, rfl⟩ := h
          rw [List.append_nil]
          refine ⟨?_, by simp [hschedules], by simp [outcome?_of_absent habsent]⟩
          rw [hschedules, batch?_of_days hdates hdays, if_pos hids]
        next hids =>
          rw [distinctProgramIds_isEmpty] at hids
          have hbatch (outcome : Except Failure Response) :=
            (batch?_of_days hdates hdays (some outcome)).trans (if_neg hids)
          rw [runs_payload] at h
          obtain ⟨outcome, hsend', rfl⟩ := h
          refine scheduled_of_details hschedules (outcome?_of_send (by simp) hrest hsend')
            (hbatch outcome) ?_ habsent ((avoids_send (by simp) (by simp)).absent hsend')
          rintro batch hresult failure rfl
          cases hresult

/-- Artwork that is not cancelled does not fail. -/
theorem artwork_of_runs {batch : ScheduleBatch} {token : String}
    {result : Except Failure ArtworkIndex} (hevents : Uncancelled events)
    (h : (Fetch.artwork policy c batch.artworkProgramIds token).Runs store events result
      store') :
    ∃ index expected, result = .ok index ∧
      artwork? batch (outcome? c "metadata/programs" events) = some expected ∧
      ∀ root, index.get? root = expected.get? root := by
  unfold Fetch.artwork at h
  unfold artwork?
  dsimp only at h
  split at h
  next hroots =>
    rw [runs_pure] at h
    obtain ⟨rfl, rfl, rfl⟩ := h
    rw [if_pos hroots]
    exact ⟨[], [], rfl, rfl, fun _ => rfl⟩
  next hroots =>
    rw [runs_outcome_bind] at h
    obtain ⟨first, rest, index, store₁, rfl, hindex, h⟩ := h
    unfold Fetch.artworkOf at hindex
    rw [runs_payload] at hindex
    obtain ⟨outcome, hsend, rfl⟩ := hindex
    obtain ⟨hfirst, -⟩ := uncancelled_append.mp hevents
    have houtcome : outcome? c "metadata/programs" first = some outcome :=
      outcome?_of_send (by simp) hfirst hsend
    have hcancelled := not_cancelled_of_send hfirst hsend
    rw [if_neg hroots]
    cases hshows : outcome.bind
        (·.decode "metadata/programs" ShowArtwork.listOfJson?) with
    | ok shows =>
        rw [hshows] at h
        obtain ⟨rfl, rfl, rfl⟩ := runs_pure.mp h
        rw [List.append_nil, houtcome, Option.map_some, hshows]
        exact ⟨_, _, rfl, rfl, fun root => (ArtworkIndex.get?_gather shows root).symm⟩
    | error failure =>
        have hfailure : failure ≠ .cancelled := by
          rintro rfl
          cases outcome with
          | error failure =>
              cases hshows
              exact hcancelled rfl
          | ok response => exact decode_ne_cancelled hshows
        rw [hshows] at h
        split at h
        next hok => cases hok
        next hcancelled => exact absurd (Except.error.inj hcancelled) hfailure
        next =>
          obtain ⟨rfl, rfl, rfl⟩ := runs_pure.mp h
          rw [List.append_nil, houtcome, Option.map_some, hshows]
          exact ⟨_, _, rfl, rfl, fun _ => rfl⟩

/-! ## The whole listing -/

def listed (provider : Provider) (account : Account) (channel : String)
    (start stop : Instant) (token : String) : Operation (List ProgramRecord) := do
  let station := Provider.station channel
  let dates := (requestDates start stop provider.zone).map Date.text
  let batch ← Fetch.schedule provider.policy account.credentials station dates (some token)
  if batch.isEmpty then return []
  let artwork ←
    Fetch.artwork provider.policy account.credentials batch.artworkProgramIds token
  Operation.ofExcept
    (ProgramRecord.mergeAll station batch.days batch.details artwork provider.base)

variable {provider : Provider} {account : Account} {channel : String} {start stop : Instant}

theorem programs_eq (hchannel : Text.blank channel = false)
    (hwindow : stop.before start = false) :
    provider.programs account channel start stop = (do
      match ← Tokens.acquire provider.policy account.credentials with
      | none => return []
      | some token => listed provider account channel start stop token) := by
  have hcheck : Provider.checkWindow channel start stop = .ok () := by
    simp [Provider.checkWindow, hchannel, hwindow]
  unfold Provider.programs
  rw [hcheck]
  rfl

theorem programs?_of_listed {token : String} {result : Except Failure (List ProgramRecord)}
    (hevents : Uncancelled events)
    (h : (listed provider account channel start stop token).Runs store events result
      store') :
    programs? provider channel ((requestDates start stop provider.zone).map Date.text)
      (outcome? account.credentials "schedules" events)
      (outcome? account.credentials "programs" events)
      (outcome? account.credentials "metadata/programs" events) = some result := by
  unfold listed at h
  dsimp only at h
  rw [runs_bind] at h
  obtain ⟨failure, h, rfl⟩ | ⟨first, rest, batch, store₁, rfl, hbatch, h⟩ := h
  · have hscheduled := scheduled_of_runs hevents h
    unfold programs?
    rw [hscheduled.batch]
    rfl
  · obtain ⟨hfirst, hrest⟩ := uncancelled_append.mp hevents
    have hscheduled := scheduled_of_runs hfirst hbatch
    split at h
    next hempty =>
      rw [runs_pure] at h
      obtain ⟨rfl, rfl, rfl⟩ := h
      rw [List.append_nil]
      unfold programs?
      rw [hscheduled.batch, Option.bind_some]
      exact if_pos hempty
    next hempty =>
      rw [runs_bind] at h
      obtain ⟨failure, h, rfl⟩ | ⟨second, rest, artwork, store₂, rfl, hartwork, h⟩ := h
      · obtain ⟨_, _, h, -⟩ := artwork_of_runs hrest h
        cases h
      · rw [runs_ofExcept] at h
        obtain ⟨rfl, rfl, rfl⟩ := h
        rw [List.append_nil] at hrest ⊢
        obtain ⟨_, expected, h, hexpected, hget⟩ := artwork_of_runs hrest hartwork
        cases h
        unfold programs?
        -- The stages ask at different paths, so none hides the outcome of another.
        rw [outcome?_append_right ((avoids_artwork (by simp) (by simp)).absent hartwork)
            (hscheduled.schedules batch rfl),
          outcome?_append_right ((avoids_artwork (by simp) (by simp)).absent hartwork)
            (hscheduled.programs batch rfl),
          outcome?_append_left (avoids_schedule.absent hbatch), hscheduled.batch,
          Option.bind_some]
        dsimp only
        rw [if_neg hempty, hexpected, Option.map_some, ProgramRecord.mergeAll_congr hget]

end Listing

/-- With a token and no cancellation the programs of a channel are a pure function of
what the last attempts at the three stages come to, whatever is in the store. -/
theorem Provider.programs_eq_listing {provider : Provider} {account : Account}
    {channel token : String} {start stop : Instant} {store : TokenStore} {o : Outside}
    (hchannel : Text.blank channel = false) (hwindow : stop.before start = false)
    (htoken : ((Tokens.acquire provider.policy account.credentials).play store o).result =
      .ok (some token))
    (hevents : Uncancelled
      ((provider.programs account channel start stop).play store o).events) :
    let played := (provider.programs account channel start stop).play store o
    Listing.programs? provider channel ((requestDates start stop provider.zone).map Date.text)
      (Stage.outcome? account.credentials "schedules" played.events)
      (Stage.outcome? account.credentials "programs" played.events)
      (Stage.outcome? account.credentials "metadata/programs" played.events) =
    some played.result := by
  rw [Listing.programs_eq hchannel hwindow] at hevents ⊢
  rw [Operation.play_bind] at hevents ⊢
  simp only [htoken] at hevents ⊢
  have hacquire := Operation.play_runs (Tokens.acquire provider.policy account.credentials)
    store o
  have habsent {path : String} (hpath : path ≠ "token") :=
    Stage.absent_of_acquired hpath (Tokens.acquire_path hacquire)
  rw [Stage.outcome?_append_left (habsent (by simp)),
    Stage.outcome?_append_left (habsent (by simp)),
    Stage.outcome?_append_left (habsent (by simp))]
  exact Listing.programs?_of_listed (Stage.uncancelled_append.mp hevents).2
    (Operation.play_runs ..)

namespace Listing

def plainProvider : Provider := ⟨⟨72000000000000, 60000000000⟩, .fixed 0, ""⟩

def viewerAccount : Account := ⟨⟨"viewer", "pw"⟩, ""⟩

/-- An outside at one instant, with answers at some moments, rejections at all others. -/
def answering (answers : List (Nat × String)) : Outside := fun n =>
  ⟨⟨1704412800, 0⟩, false,
    match answers.lookup n with
    | some body => .ok ⟨200, body⟩
    | none => .ok ⟨401, ""⟩⟩

def evening : List (Nat × String) :=
  [(1, "\x7b\"message\":\"OK\",\"token\":\"tok\"\x7d"),
   (4, "[\x7b\"programs\":[\x7b\"programID\":\"EP01\"," ++
     "\"airDateTime\":\"2024-01-05T20:15:00Z\"\x7d]\x7d]"),
   (6, "[\x7b\"programID\":\"EP01\",\"hasImageArtwork\":true\x7d]")]

end Listing

open Listing in
theorem Provider.programs_eq_listing_evening :
    let played := (plainProvider.programs viewerAccount "20454" ⟨1704412800, 0⟩
      ⟨1704416400, 0⟩).play .empty (answering evening)
    Listing.programs? plainProvider "20454"
      ((requestDates ⟨1704412800, 0⟩ ⟨1704416400, 0⟩ (.fixed 0)).map Date.text)
      (Stage.outcome? viewerAccount.credentials "schedules" played.events)
      (Stage.outcome? viewerAccount.credentials "programs" played.events)
      (Stage.outcome? viewerAccount.credentials "metadata/programs" played.events) =
    some played.result := by
  have htoken : ((Tokens.acquire plainProvider.policy viewerAccount.credentials).play .empty
      (answering evening)).result = .ok (some "tok") := by decide +kernel
  exact programs_eq_listing (by decide +kernel) (by decide +kernel) htoken
    (by decide +kernel)

end ProgramGuide
