import ProgramGuide.Proofs.Schedule.Airing
import ProgramGuide.Proofs.Service.Listing
import ProgramGuide.Proofs.Service.Round

/-!
# The course of a listing

What is handed over while the programs of a channel are fetched: a request for a token if
need be, and then one round for each of three stages, each of which asks for what the
stage before it has brought.
-/

namespace ProgramGuide

namespace Course

/-- What is handed over before the first stage. -/
inductive Opening (c : Credentials) : List Exchange → Prop
  | settled : Opening c []
  | asking (answer) : Opening c [⟨Tokens.request c, answer⟩]

def idsRequest (path : String) (ids : List String) : Request :=
  .post path (Json.list .string ids)

section Stages

variable (provider : Provider) (account : Account) (channel : String) (start stop : Instant)

def scheduleRequest : Request :=
  .post "schedules"
    (.array
      [.object
        [("stationID", .string (Provider.station channel)),
         ("date", Json.list .string ((requestDates start stop provider.zone).map Date.text))]])

/-- A course up to the schedule. -/
inductive Scheduled : List Exchange → List ScheduleDay → Prop
  | intro {opening sent response days} (hopening : Opening account.credentials opening)
      (hround : Round account.credentials (scheduleRequest provider channel start stop) sent
        (some response))
      (hdays : response.decode "schedules" (Json.list? ScheduleDay.ofJson?) = .ok days) :
      Scheduled (opening ++ sent) days

/-- A course up to the details. -/
inductive Described : List Exchange → List ProgramDetails → Prop
  | intro {before days ids sent response details}
      (hbefore : Scheduled provider account channel start stop before days)
      (hids : FirstSeen ((airingsOf days).map (·.programId)) ids) (hne : ids ≠ [])
      (hround : Round account.credentials (idsRequest "programs" ids) sent (some response))
      (hdetails : response.decode "programs" (Json.list? ProgramDetails.ofJson?) =
        .ok details) :
      Described (before ++ sent) details

end Stages

end Course

open Course in
/-- All that may be handed over for a listing, wherever it ends. -/
inductive Course (provider : Provider) (account : Account) (channel : String)
    (start stop : Instant) : List Exchange → Prop
  | opening {sent} (h : Opening account.credentials sent) :
      Course provider account channel start stop sent
  | schedules {opening sent outcome} (hopening : Opening account.credentials opening)
      (hround : Round account.credentials (scheduleRequest provider channel start stop) sent
        outcome) :
      Course provider account channel start stop (opening ++ sent)
  | programs {before days ids sent outcome}
      (hbefore : Scheduled provider account channel start stop before days)
      (hids : FirstSeen ((airingsOf days).map (·.programId)) ids) (hne : ids ≠ [])
      (hround : Round account.credentials (idsRequest "programs" ids) sent outcome) :
      Course provider account channel start stop (before ++ sent)
  | artwork {before details roots sent outcome}
      (hbefore : Described provider account channel start stop before details)
      (hroots : FirstSeen
        ((details.filter (·.hasArtwork)).map fun d => ProgramId.root d.programId) roots)
      (hne : roots ≠ [])
      (hround : Round account.credentials (idsRequest "metadata/programs" roots) sent
        outcome) :
      Course provider account channel start stop (before ++ sent)

namespace Course

open Operation

variable {provider : Provider} {account : Account} {channel : String} {start stop : Instant}
variable {sent before : List Exchange}

@[simp] theorem scheduleRequest_path :
    (scheduleRequest provider channel start stop).path = "schedules" :=
  rfl

@[simp] theorem idsRequest_path (path : String) (ids : List String) :
    (idsRequest path ids).path = path :=
  rfl

theorem request_of_opening {c : Credentials} {exchange : Exchange} (h : Opening c sent)
    (hsent : exchange ∈ sent) : exchange.request = Tokens.request c := by
  cases h with
  | settled => cases hsent
  | asking => rw [List.mem_singleton.mp hsent]

/-! ## Bounds -/

/-- At most so many exchanges, and so many for tokens among them. -/
structure Within (exchanges renewals : Nat) (sent : List Exchange) : Prop where
  length_le : sent.length ≤ exchanges
  renewals_le : sent.countP (·.request.path == "token") ≤ renewals

theorem Within.append {a b m n : Nat} (h : Within a m before) (h' : Within b n sent) :
    Within (a + b) (m + n) (before ++ sent) where
  length_le := by
    rw [List.length_append]
    exact Nat.add_le_add h.length_le h'.length_le
  renewals_le := by
    rw [List.countP_append]
    exact Nat.add_le_add h.renewals_le h'.renewals_le

theorem Within.mono {a b m n : Nat} (hlength : a ≤ b) (hrenewals : m ≤ n)
    (h : Within a m sent) : Within b n sent where
  length_le := Nat.le_trans h.length_le hlength
  renewals_le := Nat.le_trans h.renewals_le hrenewals

theorem within_of_opening {c : Credentials} (h : Opening c sent) : Within 1 1 sent := by
  cases h <;> constructor <;> simp [Tokens.request, Request.post]

theorem within_of_round {c : Credentials} {request : Request} {outcome : Option Response}
    (hpath : request.path ≠ "token") (h : Round c request sent outcome) : Within 3 1 sent :=
  ⟨h.length_le, h.countP_token_le hpath⟩

theorem within_of_scheduled {days : List ScheduleDay}
    (h : Scheduled provider account channel start stop sent days) : Within 4 2 sent := by
  cases h with
  | intro hopening hround =>
      exact (within_of_opening hopening).append
        (within_of_round (by simp) hround)

theorem within_of_described {details : List ProgramDetails}
    (h : Described provider account channel start stop sent details) : Within 7 3 sent := by
  cases h with
  | intro hbefore _ _ hround =>
      exact (within_of_scheduled hbefore).append
        (within_of_round (by simp) hround)

theorem within (h : Course provider account channel start stop sent) : Within 10 4 sent := by
  cases h with
  | opening h => exact (within_of_opening h).mono (by omega) (by omega)
  | schedules hopening hround =>
      have hwithin := (within_of_opening hopening).append
        (within_of_round (by simp) hround)
      exact hwithin.mono (by omega) (by omega)
  | programs hbefore _ _ hround =>
      have hwithin := (within_of_scheduled hbefore).append
        (within_of_round (by simp) hround)
      exact hwithin.mono (by omega) (by omega)
  | artwork hbefore _ _ hround =>
      exact (within_of_described hbefore).append
        (within_of_round (by simp) hround)

/-! ## Runs -/

variable {store store' : TokenStore} {events : List Event} {token : String}

theorem opening_of_acquired {policy : TokenPolicy} {c : Credentials}
    {result : Except Failure (Option String)}
    (h : Tokens.Acquired policy c store events result store') :
    Opening c (exchanges events) := by
  obtain hevents | ⟨answer, hevents⟩ := Tokens.exchanges_of_acquired h
  · rw [hevents]
    exact .settled
  · rw [hevents]
    exact .asking answer

theorem round_of_send {policy : TokenPolicy} {retryAllowed : Bool} {c : Credentials}
    {request : Request} {result : Except Failure Response}
    (h : (Transport.send policy retryAllowed c (request.withToken token)).Runs store events
      result store') : Round c request (exchanges events) result.toOption :=
  (Transport.round_of_sent (Transport.send_path h)).of_withToken

theorem of_described {details : List ProgramDetails}
    (h : Described provider account channel start stop sent details) :
    Course provider account channel start stop sent := by
  cases h with
  | intro hbefore hids hne hround => exact .programs hbefore hids hne hround

theorem of_details {days : List ScheduleDay} {result : Except Failure ScheduleBatch}
    (hbefore : Scheduled provider account channel start stop before days)
    (hne : distinctProgramIds days ≠ [])
    (h : (do
      let response ← Transport.send provider.policy true account.credentials
        (Fetch.idsRequest "programs" (distinctProgramIds days) token)
      let details ← Operation.ofExcept
        (response.decode "programs" (Json.list? ProgramDetails.ofJson?))
      return ⟨days, details⟩ : Operation ScheduleBatch).Runs store events result store') :
    Course provider account channel start stop (before ++ exchanges events) ∧
      ∀ batch, result = .ok batch →
        Described provider account channel start stop (before ++ exchanges events)
          batch.details := by
  have hseen : FirstSeen ((airingsOf days).map (·.programId)) (distinctProgramIds days) :=
    firstSeen_firstOfEach _
  rw [Listing.runs_payload] at h
  obtain ⟨outcome, hsend, rfl⟩ := h
  have hround : Round account.credentials (idsRequest "programs" (distinctProgramIds days))
      (exchanges events) outcome.toOption := round_of_send hsend
  refine ⟨.programs hbefore hseen hne hround, ?_⟩
  intro batch hbatch
  cases outcome with
  | error failure => cases hbatch
  | ok response =>
      cases hdetails : response.decode "programs" (Json.list? ProgramDetails.ofJson?) with
      | error failure => simp [Except.bind, hdetails, Except.map] at hbatch
      | ok details =>
          obtain rfl : ⟨days, details⟩ = batch := by
            simpa [Except.bind, hdetails, Except.map] using hbatch
          exact .intro hbefore hseen hne hround hdetails

/-- A course goes on with the schedule, and a schedule that is not empty has details. -/
theorem of_schedule {opening : List Exchange} {result : Except Failure ScheduleBatch}
    (hopening : Opening account.credentials opening)
    (h : (Fetch.schedule provider.policy account.credentials (Provider.station channel)
      ((requestDates start stop provider.zone).map Date.text) (some token)).Runs store events
        result store') :
    Course provider account channel start stop (opening ++ exchanges events) ∧
      ∀ batch, result = .ok batch → batch.isEmpty = false →
        Described provider account channel start stop (opening ++ exchanges events)
          batch.details := by
  unfold Fetch.schedule at h
  dsimp only at h
  split at h
  next =>
    rw [runs_pure] at h
    obtain ⟨rfl, rfl, rfl⟩ := h
    rw [exchanges_nil, List.append_nil]
    refine ⟨.opening hopening, ?_⟩
    intro batch hbatch hempty
    cases hbatch
    cases hempty
  next =>
    rw [runs_bind] at h
    obtain ⟨failure, hsend, rfl⟩ | ⟨first, rest, response, store₁, rfl, hsend, h⟩ := h
    · exact ⟨.schedules hopening (round_of_send hsend), by simp⟩
    · have hround : Round account.credentials (scheduleRequest provider channel start stop)
          (exchanges first) (some response) := round_of_send hsend
      rw [exchanges_append, ← List.append_assoc]
      rw [runs_ofExcept_bind] at h
      obtain ⟨failure, hdays, rfl, rfl, rfl⟩ | ⟨days, hdays, h⟩ := h
      · rw [exchanges_nil, List.append_nil]
        exact ⟨.schedules hopening hround, by simp⟩
      · split at h
        next hids =>
          rw [runs_pure] at h
          obtain ⟨rfl, rfl, rfl⟩ := h
          rw [exchanges_nil, List.append_nil]
          refine ⟨.schedules hopening hround, ?_⟩
          intro batch hbatch hempty
          cases hbatch
          -- Without ids there are no airings, and an empty batch goes no further.
          rw [distinctProgramIds_isEmpty] at hids
          rw [ScheduleBatch.isEmpty, ScheduleBatch.airings, hids] at hempty
          cases hempty
        next hids =>
          obtain ⟨hcourse, hdescribed⟩ :=
            of_details (.intro hopening hround hdays) (by simpa using hids) h
          exact ⟨hcourse, fun batch hbatch _ => hdescribed batch hbatch⟩

theorem of_artwork {batch : ScheduleBatch} {result : Except Failure ArtworkIndex}
    (hbefore : Described provider account channel start stop before batch.details)
    (h : (Fetch.artwork provider.policy account.credentials batch.artworkProgramIds
      token).Runs store events result store') :
    Course provider account channel start stop (before ++ exchanges events) := by
  unfold Fetch.artwork at h
  dsimp only at h
  split at h
  next =>
    rw [runs_pure] at h
    obtain ⟨rfl, -⟩ := h
    rw [exchanges_nil, List.append_nil]
    exact of_described hbefore
  next hroots =>
    have hseen : FirstSeen
        ((batch.details.filter (·.hasArtwork)).map fun d => ProgramId.root d.programId)
        (Fetch.artworkRoots batch.artworkProgramIds) := by
      rw [Fetch.artworkRoots, ScheduleBatch.artworkProgramIds, List.map_map]
      exact firstSeen_firstOfEach _
    have hne : Fetch.artworkRoots batch.artworkProgramIds ≠ [] := by simpa using hroots
    rw [runs_outcome_bind] at h
    obtain ⟨first, rest, index, store₁, rfl, hindex, h⟩ := h
    have hrest : rest = [] := by
      split at h
      · exact (runs_pure.mp h).1
      · exact (runs_throw.mp h).1
      · exact (runs_pure.mp h).1
    unfold Fetch.artworkOf at hindex
    rw [Listing.runs_payload] at hindex
    obtain ⟨outcome, hsend, -⟩ := hindex
    rw [hrest, List.append_nil]
    exact .artwork hbefore hseen hne (round_of_send hsend)

theorem of_listed {opening : List Exchange} {result : Except Failure (List ProgramRecord)}
    (hopening : Opening account.credentials opening)
    (h : (Listing.listed provider account channel start stop token).Runs store events result
      store') : Course provider account channel start stop (opening ++ exchanges events) := by
  unfold Listing.listed at h
  dsimp only at h
  rw [runs_bind] at h
  obtain ⟨failure, h, -⟩ | ⟨first, rest, batch, store₁, rfl, hbatch, h⟩ := h
  · exact (of_schedule hopening h).1
  · obtain ⟨hcourse, hdescribed⟩ := of_schedule hopening hbatch
    rw [exchanges_append, ← List.append_assoc]
    split at h
    next =>
      obtain ⟨rfl, -⟩ := runs_pure.mp h
      rw [exchanges_nil, List.append_nil]
      exact hcourse
    next hempty =>
      replace hdescribed := hdescribed batch rfl (by simpa using hempty)
      rw [runs_bind] at h
      obtain ⟨failure, h, -⟩ | ⟨second, rest, artwork, store₂, rfl, hartwork, h⟩ := h
      · exact of_artwork hdescribed h
      · obtain ⟨rfl, -⟩ := runs_ofExcept.mp h
        rw [List.append_nil]
        exact of_artwork hdescribed hartwork

theorem of_programs {result : Except Failure (List ProgramRecord)}
    (h : (provider.programs account channel start stop).Runs store events result store') :
    Course provider account channel start stop (exchanges events) := by
  unfold Provider.programs at h
  rw [runs_ofExcept_bind] at h
  obtain ⟨failure, -, rfl, -⟩ | ⟨-, -, h⟩ := h
  · exact .opening .settled
  · rw [runs_bind] at h
    obtain ⟨failure, hacquire, -⟩ | ⟨first, rest, token, store₁, rfl, hacquire, h⟩ := h
    · exact .opening (opening_of_acquired (Tokens.acquire_path hacquire))
    · have hopening := opening_of_acquired (Tokens.acquire_path hacquire)
      rw [exchanges_append]
      cases token with
      | none =>
          obtain ⟨rfl, -⟩ := runs_pure.mp h
          rw [exchanges_nil, List.append_nil]
          exact .opening hopening
      | some token => exact of_listed hopening h

end Course

/-- Whatever the service answers and the store holds, fetching the programs of a channel
takes its course, with ten requests at most, and four for tokens among them. -/
theorem Provider.course_of_programs (provider : Provider) (account : Account)
    (channel : String) (start stop : Instant) (store : TokenStore) (o : Outside) :
    let sent := exchanges ((provider.programs account channel start stop).play store o).events
    Course provider account channel start stop sent ∧ sent.length ≤ 10 ∧
      sent.countP (·.request.path == "token") ≤ 4 := by
  have hcourse := Course.of_programs
    (Operation.play_runs (provider.programs account channel start stop) store o)
  exact ⟨hcourse, hcourse.within.length_le, hcourse.within.renewals_le⟩

open Listing in
/-- The bounds are reached when every first attempt is turned down. -/
example :
    let granted := "\x7b\"message\":\"OK\",\"token\":\"tok\"\x7d"
    let sent := exchanges ((plainProvider.programs viewerAccount "20454" ⟨1704412800, 0⟩
      ⟨1704416400, 0⟩).play .empty (answering
        [(1, granted), (6, granted),
         (8, "[\x7b\"programs\":[\x7b\"programID\":\"EP01\"," ++
           "\"airDateTime\":\"2024-01-05T20:15:00Z\"\x7d]\x7d]"),
         (12, granted), (14, "[\x7b\"programID\":\"EP01\",\"hasImageArtwork\":true\x7d]"),
         (18, granted)])).events
    sent.length = 10 ∧ sent.countP (·.request.path == "token") = 4 := by
  decide +kernel

end ProgramGuide
