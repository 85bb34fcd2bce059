import ProgramGuide.Proofs.Json.Writer
import ProgramGuide.Proofs.Service.Course
import ProgramGuide.Proofs.Service.Precondition
import ProgramGuide.Proofs.Text.Removal

/-!
# Stations that are asked for

A schedule is asked for by the station of a channel.  Normalization takes out the suffixes
that stand in the id of the channel as it was given, cuts no character in two and leaves
the rest as it is.  The id is tested for blanks as it was given, but what is left of it
may be nothing.
-/

namespace ProgramGuide

/-! ## Normalized channels -/

theorem Provider.station_sublist (channel : String) :
    (Provider.station channel).toList.Sublist channel.toList := by
  unfold Provider.station Text.removeIgnoringCase
  rw [String.toList_ofList]
  exact (List.dropWhile_sublist _).trans (Text.replaceWhere_sublist ..)

theorem Provider.blank_station {channel : String} (h : Text.blank channel = true) :
    Text.blank (Provider.station channel) = true := by
  simp only [Text.blank, List.all_eq_true] at h ⊢
  exact fun c hc => h c ((Provider.station_sublist channel).mem hc)

/-- However suffixes and pieces without one make up the id of a channel, its station is
the pieces alone without leading marks, cut out at places between two characters. -/
theorem Provider.station_parted (channel : String) :
    (∃ kept, Text.Parted channelSuffix.toList channel.toList kept) ∧
    ∀ kept, Text.Parted channelSuffix.toList channel.toList kept →
      Text.removeByBytes? channelSuffix.toList channel.toList = some kept ∧
      ∃ n, kept = List.replicate n 'I' ++ (station channel).toList ∧
        (station channel).toList.head? ≠ some 'I' := by
  have hmark : Text.Unbordered (Text.foldCase channelSuffix.toList) := by decide
  have hne : channelSuffix.toList ≠ [] := by decide
  refine ⟨Text.exists_parted hne channel.toList, ?_⟩
  intro kept hparted
  have hstation : (station channel).toList = kept.dropWhile (· == 'I') := by
    rw [station, String.toList_ofList, Text.removeIgnoringCase_of_parted hmark hne hparted]
  rw [hstation]
  exact ⟨Text.removeByBytes?_of_parted hmark hne hparted, Text.exists_dropped 'I' kept⟩

def Provider.nested : String := "II20é.json.JSON.SchedulesDirect.ORG.schedulesdirect.org"

theorem Provider.parted_nested : Text.Parted channelSuffix.toList nested.toList
    "II20é.json.schedulesdirect.org".toList := by
  have hfirst : ¬Text.foldCase channelSuffix.toList <:+: Text.foldCase "II20é.json".toList := by
    decide
  have hlast : ¬Text.foldCase channelSuffix.toList <:+:
      Text.foldCase ".schedulesdirect.org".toList := by
    decide
  have hmarked : Text.foldCase ".JSON.SchedulesDirect.ORG".toList =
      Text.foldCase channelSuffix.toList := by
    decide
  have hnested : nested.toList = "II20é.json".toList ++
      (".JSON.SchedulesDirect.ORG".toList ++ ".schedulesdirect.org".toList) := by
    decide +kernel
  have hkept : "II20é.json.schedulesdirect.org".toList =
      "II20é.json".toList ++ ".schedulesdirect.org".toList := by
    decide +kernel
  rw [hnested, hkept]
  exact .mark hfirst hmarked (.last hlast)

theorem Provider.station_parted_nested :
    Text.Parted channelSuffix.toList nested.toList "II20é.json.schedulesdirect.org".toList ∧
    Text.removeByBytes? channelSuffix.toList nested.toList =
      some "II20é.json.schedulesdirect.org".toList ∧
    (∃ n, "II20é.json.schedulesdirect.org".toList =
        List.replicate n 'I' ++ (station nested).toList ∧
      (station nested).toList.head? ≠ some 'I') ∧
    station nested = "20é.json.schedulesdirect.org" := by
  obtain ⟨hremoved, hstation⟩ := (station_parted nested).2 _ parted_nested
  exact ⟨parted_nested, hremoved, hstation, by decide +kernel⟩

/-! ## Requests -/

/-- The body of the request, read as JSON, has a place where it names the station. -/
def AsksFor (request : Request) (station : String) : Prop :=
  ∃ body items wanted, request.body = some body ∧ Json.read? body = some (.array items) ∧
    wanted ∈ items ∧ wanted.get? "stationID" = some (.string station)

namespace Course

variable {provider : Provider} {account : Account} {channel : String} {start stop : Instant}
variable {before sent : List Exchange} {exchange : Exchange}

/-- What a request for a schedule asks for. -/
def wanted (provider : Provider) (channel : String) (start stop : Instant) : Json :=
  .object
    [("stationID", .string (Provider.station channel)),
     ("date", Json.list .string ((requestDates start stop provider.zone).map Date.text))]

theorem textual_wanted : (wanted provider channel start stop).Textual := by
  apply Json.Textual.object
  simp [Json.textual_strings, Json.Textual.string]

theorem stationID_wanted :
    (wanted provider channel start stop).get? "stationID" =
      some (.string (Provider.station channel)) := by
  simp [wanted, Json.get?, Json.member?]

/-- A request for a schedule names the station of the channel and no other. -/
theorem asksFor_iff {station : String}
    (h : exchange.Attempts (scheduleRequest provider channel start stop)) :
    AsksFor exchange.request station ↔ station = Provider.station channel := by
  have hbody : exchange.request.body =
      some (Json.array [wanted provider channel start stop]).write := by
    obtain ⟨token, h⟩ := h
    rw [h]
    rfl
  have hread : Json.read? (Json.array [wanted provider channel start stop]).write =
      some (.array [wanted provider channel start stop]) :=
    Json.read?_write (.array (by simp [textual_wanted]))
  constructor
  · rintro ⟨body, items, asked, hbody', hread', hasked, hstation⟩
    rw [hbody] at hbody'
    obtain rfl := Option.some.inj hbody'
    rw [hread] at hread'
    obtain rfl := Json.array.inj (Option.some.inj hread')
    obtain rfl := List.mem_singleton.mp hasked
    rw [stationID_wanted] at hstation
    exact (Json.string.inj (Option.some.inj hstation)).symm
  · rintro rfl
    exact ⟨_, _, _, hbody, hread, List.mem_singleton_self _, stationID_wanted⟩

/-- Whatever is sent to the path of schedules is an attempt at the request. -/
def Schedules (request : Request) (sent : List Exchange) : Prop :=
  ∀ exchange ∈ sent, exchange.request.path = "schedules" → exchange.Attempts request

theorem Schedules.append {request : Request} (h : Schedules request before)
    (h' : Schedules request sent) : Schedules request (before ++ sent) := by
  intro exchange hsent hpath
  obtain hsent | hsent := List.mem_append.mp hsent
  · exact h exchange hsent hpath
  · exact h' exchange hsent hpath

theorem tokenRequest_path_ne (c : Credentials) : (Tokens.request c).path ≠ "schedules" := by
  simp [Tokens.request, Request.post]

theorem schedules_of_opening {c : Credentials} (request : Request) (h : Opening c sent) :
    Schedules request sent := by
  intro exchange hsent hpath
  rw [request_of_opening h hsent] at hpath
  exact absurd hpath (tokenRequest_path_ne c)

theorem schedules_of_round {c : Credentials} {request : Request} {outcome : Option Response}
    (h : Round c request sent outcome) : Schedules request sent := by
  intro exchange hsent hpath
  obtain hattempts | htoken := h.attempts_or_token hsent
  · exact hattempts
  · rw [htoken] at hpath
    exact absurd hpath (tokenRequest_path_ne c)

theorem schedules_of_other {c : Credentials} {request other : Request}
    {outcome : Option Response} (hother : other.path ≠ "schedules")
    (h : Round c other sent outcome) : Schedules request sent := by
  intro exchange hsent hpath
  have hattempts := schedules_of_round h exchange hsent hpath
  exact absurd (hattempts.path.symm.trans hpath) hother

theorem schedules_of_scheduled {days : List ScheduleDay}
    (h : Scheduled provider account channel start stop sent days) :
    Schedules (scheduleRequest provider channel start stop) sent := by
  cases h with
  | intro hopening hround =>
      exact (schedules_of_opening _ hopening).append (schedules_of_round hround)

theorem schedules_of_described {details : List ProgramDetails}
    (h : Described provider account channel start stop sent details) :
    Schedules (scheduleRequest provider channel start stop) sent := by
  cases h with
  | intro hbefore _ _ hround =>
      exact (schedules_of_scheduled hbefore).append (schedules_of_other (by simp) hround)

theorem schedules_of_course (h : Course provider account channel start stop sent) :
    Schedules (scheduleRequest provider channel start stop) sent := by
  cases h with
  | opening hopening => exact schedules_of_opening _ hopening
  | schedules hopening hround =>
      exact (schedules_of_opening _ hopening).append (schedules_of_round hround)
  | programs hbefore _ _ hround =>
      exact (schedules_of_scheduled hbefore).append (schedules_of_other (by simp) hround)
  | artwork hbefore _ _ hround =>
      exact (schedules_of_described hbefore).append (schedules_of_other (by simp) hround)

end Course

/-! ## Silent runs -/

/-- Without an exchange, an operation that goes on fails only by a cancellation. -/
def Silent (events : List Event) (result : Except Failure α) : Prop :=
  exchanges events = [] → (∃ a, result = .ok a) ∨ result = .error .cancelled

section Silent

open Operation

variable {policy : TokenPolicy} {c : Credentials} {store store' : TokenStore}
variable {events : List Event}

theorem silent_of_acquire {result : Except Failure (Option String)}
    (h : (Tokens.acquire policy c).Runs store events result store') : Silent events result := by
  intro hsilent
  have hacquired := Tokens.acquire_path h
  cases hacquired with
  | incomplete => exact .inl ⟨_, rfl⟩
  | settled => exact .inl ⟨_, rfl⟩
  | abandoned => exact .inr rfl
  | settledLate => exact .inl ⟨_, rfl⟩
  | refreshed _ hlook hlook' hrefresh =>
      cases hrefresh with
      | granted => simp at hsilent
      | rejected => simp at hsilent
      | @failed sent _ _ hverdict _ hsent =>
          cases sent with
          | true => simp at hsilent
          | false =>
              obtain rfl := hsent rfl
              cases hverdict
              exact .inr rfl

theorem silent_of_send {retryAllowed : Bool} {request : Request}
    {result : Except Failure Response}
    (h : (Transport.send policy retryAllowed c request).Runs store events result store')
    (hsilent : exchanges events = []) : result = .error .cancelled := by
  have hsent := Transport.send_path h
  cases hsent with
  | @broken _ _ sent _ _ hsent =>
      cases sent with
      | true => simp at hsilent
      | false => rw [hsent rfl]
  | final => simp at hsilent
  | tokenFailed => simp at hsilent
  | tokenless => simp at hsilent
  | retried => simp at hsilent

theorem silent_of_schedule {station : String} {dates : List String} {token : Option String}
    {result : Except Failure ScheduleBatch}
    (h : (Fetch.schedule policy c station dates token).Runs store events result store')
    (hsilent : exchanges events = []) :
    result = .ok .empty ∨ result = .error .cancelled := by
  unfold Fetch.schedule at h
  cases token with
  | none => exact .inl (runs_pure.mp h).2.1
  | some token =>
      dsimp only at h
      split at h
      next => exact .inl (runs_pure.mp h).2.1
      next =>
        rw [runs_bind] at h
        obtain ⟨failure, hsend, rfl⟩ | ⟨first, rest, response, store₁, rfl, hsend, -⟩ := h
        · cases silent_of_send hsend hsilent
          exact .inr rfl
        · simp only [exchanges_append, List.append_eq_nil_iff] at hsilent
          cases silent_of_send hsend hsilent.1

theorem silent_of_programs {provider : Provider} {account : Account} {channel : String}
    {start stop : Instant} {result : Except Failure (List ProgramRecord)}
    (hcheck : Provider.checkWindow channel start stop = .ok ())
    (h : (provider.programs account channel start stop).Runs store events result store') :
    Silent events result := by
  intro hsilent
  unfold Provider.programs at h
  rw [hcheck, runs_ofExcept_bind] at h
  obtain ⟨_, hfailure, -⟩ | ⟨-, -, h⟩ := h
  · cases hfailure
  rw [runs_bind] at h
  obtain ⟨failure, hacquire, rfl⟩ | ⟨first, rest, token, store₁, rfl, hacquire, h⟩ := h
  · obtain ⟨_, htoken⟩ | hcancelled := silent_of_acquire hacquire hsilent
    · cases htoken
    · exact .inr (congrArg Except.error (Except.error.inj hcancelled))
  simp only [exchanges_append, List.append_eq_nil_iff] at hsilent
  cases token with
  | none => exact .inl ⟨_, (runs_pure.mp h).2.1⟩
  | some token =>
      dsimp only at h
      rw [runs_bind] at h
      obtain ⟨failure, hbatch, rfl⟩ | ⟨second, rest, batch, store₂, rfl, hbatch, h⟩ := h
      · obtain hbatch | hbatch := silent_of_schedule hbatch hsilent.2
        · cases hbatch
        · exact .inr (congrArg Except.error (Except.error.inj hbatch))
      · simp only [exchanges_append, List.append_eq_nil_iff] at hsilent
        obtain hbatch | hbatch := silent_of_schedule hbatch hsilent.2.1
        · cases hbatch
          exact .inl ⟨_, (runs_pure.mp h).2.1⟩
        · cases hbatch

end Silent

theorem requests_eq_nil_iff {p : Played α} : p.requests = [] ↔ exchanges p.events = [] := by
  simp only [Played.requests, exchanges, List.filterMap_eq_nil_iff]
  apply forall₂_congr
  intro event _
  cases event with
  | exchange request sent result => cases sent <;> simp [Event.request?, Event.exchange?]
  | _ => simp [Event.request?, Event.exchange?]

/-! ## Named stations -/

/-- Every request for a schedule names a station that is not blank, and a channel without
such a station is declined. -/
structure Named (channel : String) (store : TokenStore) (p : Played (Except Failure α)) :
    Prop where
  asks : ∀ exchange ∈ exchanges p.events, exchange.request.path = "schedules" →
    (∃ station, AsksFor exchange.request station) ∧
      ∀ station, AsksFor exchange.request station → Text.blank station = false
  declined : Text.blank (Provider.station channel) = true → ∃ cause, Declined store cause p

theorem checkWindow_eq_ok_iff {channel : String} {start stop : Instant} :
    Provider.checkWindow channel start stop = .ok () ↔
      Text.blank channel = false ∧ stop.before start = false := by
  unfold Provider.checkWindow
  cases hblank : Text.blank channel <;> cases hbefore : stop.before start <;> simp

theorem declined_of_checkWindow (provider : Provider) (account : Account)
    {channel : String} {start stop : Instant} (store : TokenStore) (o : Outside)
    (h : Provider.checkWindow channel start stop ≠ .ok ()) :
    ∃ cause, Declined store cause
      ((provider.programs account channel start stop).play store o) := by
  have hcause : ∃ cause, Provider.checkWindow channel start stop =
      .error (.configuration cause) := by
    unfold Provider.checkWindow at h ⊢
    cases hblank : Text.blank channel <;> cases hbefore : stop.before start <;> simp_all
  obtain ⟨cause, hcause⟩ := hcause
  exact ⟨cause, .of_check hcause⟩

/-- Stations are named unless normalization makes the id of the channel blank. -/
theorem Provider.named_iff (provider : Provider) (account : Account) (channel : String)
    (start stop : Instant) (store : TokenStore) (o : Outside) :
    Named channel store ((provider.programs account channel start stop).play store o) ↔
      Text.blank (Provider.station channel) = Text.blank channel ∨
        stop.before start = true := by
  have hrun := Operation.play_runs (provider.programs account channel start stop) store o
  by_cases hcheck : checkWindow channel start stop = .ok ()
  · obtain ⟨hchannel, hwindow⟩ := checkWindow_eq_ok_iff.mp hcheck
    simp only [hchannel, hwindow, Bool.false_eq_true, or_false]
    constructor
    · intro hnamed
      -- Nothing turns the channel down once its id has passed the test.
      cases hstation : Text.blank (station channel) with
      | false => rfl
      | true =>
          obtain ⟨cause, hdeclined⟩ := hnamed.declined hstation
          have hsilent := silent_of_programs hcheck hrun (requests_eq_nil_iff.mp hdeclined.requests)
          simp [hdeclined.result] at hsilent
    · intro hstation
      refine ⟨?_, by simp [hstation]⟩
      intro exchange hsent hpath
      have hattempts := Course.schedules_of_course (Course.of_programs hrun) exchange hsent hpath
      refine ⟨⟨station channel, (Course.asksFor_iff hattempts).mpr rfl⟩, ?_⟩
      intro asked hasked
      rw [(Course.asksFor_iff hattempts).mp hasked, hstation]
  · obtain ⟨cause, hdeclined⟩ := declined_of_checkWindow provider account store o hcheck
    have hsent := requests_eq_nil_iff.mp hdeclined.requests
    have hwindow : Text.blank channel = true ∨ stop.before start = true := by
      rw [checkWindow_eq_ok_iff] at hcheck
      simpa [or_iff_not_imp_left] using hcheck
    refine iff_of_true ⟨by simp [hsent], fun _ => ⟨cause, hdeclined⟩⟩ ?_
    obtain hblank | hwindow := hwindow
    · exact .inl ((blank_station hblank).trans hblank.symm)
    · exact .inr hwindow

namespace Nameless

def provider : Provider := ⟨⟨72000000000000, 60000000000⟩, .fixed 0, ""⟩

def viewer : Account := ⟨⟨"viewer", "pw"⟩, ""⟩

def outside : Outside := fun n =>
  ⟨⟨1704412800, 0⟩, false,
    .ok ⟨200, if n = 1 then "\x7b\"message\":\"OK\",\"token\":\"tok\"\x7d" else "[]"⟩⟩

/-- The programs on a channel whose id is nothing but a mark. -/
def played : Played (Except Failure (List ProgramRecord)) :=
  (provider.programs viewer "I" ⟨1704412800, 0⟩ ⟨1704416400, 0⟩).play .empty outside

end Nameless

open Nameless in
theorem Provider.not_named_of_mark : ¬Named "I" .empty played := by
  intro hnamed
  obtain ⟨cause, hdeclined⟩ := hnamed.declined (by decide +kernel)
  exact absurd hdeclined.requests (by decide +kernel)

open Nameless in
example : ((exchanges played.events).getLast?.bind (·.request.body)) =
    some "[\x7b\"stationID\":\"\",\"date\":[\"2024-01-05\"]\x7d]" := by
  decide +kernel

end ProgramGuide
