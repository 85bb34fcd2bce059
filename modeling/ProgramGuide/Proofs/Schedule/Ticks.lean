import ProgramGuide.Proofs.Calendar.Timestamp
import ProgramGuide.Proofs.Json.Record
import ProgramGuide.Proofs.Program.Join

/-!
# Start ticks of a schedule

The starts of a schedule within the span of the word have exact ticks, and so have their
identities and records.  Ticks know no leap seconds, so one runs on into the second behind
it, and only there a later instant may have fewer ticks.  A schedule can also name years
beyond the span, which leave no record.
-/

namespace ProgramGuide

namespace Instant

variable {t u : Instant}

/-- The one instant lies in a leap second, the other in the second behind it and not so far
into it. -/
structure RunsPast (t u : Instant) : Prop where
  leap : t.isLeap = true
  behind : u.seconds = t.seconds + 1
  nanos_lt : u.nanos + billion < t.nanos

theorem units_le_of_before (ht : t.Real) (h : t.before u = true) (hpast : ¬t.RunsPast u) :
    t.units ≤ u.units := by
  have hnanos := ht.nanos_lt
  simp only [before, Bool.or_eq_true, Bool.and_eq_true, decide_eq_true_eq, beq_iff_eq] at h
  have hrule : t.isLeap = true → u.seconds = t.seconds + 1 → t.nanos ≤ u.nanos + billion := by
    intro hleap hbehind
    by_contra hlt
    exact hpast ⟨hleap, hbehind, by omega⟩
  simp only [isLeap, decide_eq_true_eq] at hrule
  unfold units
  unfold billion at *
  omega

end Instant

theorem Instant.promises_ofJson? : Json.Promises Instant.ofJson? Real := by
  intro j t h
  obtain ⟨s, -, hs⟩ := Option.bind_eq_some_iff.mp h
  exact real_of_read? hs

namespace Airing

open Json Fields

theorem promises_ofJson? : Promises ofJson? fun airing => airing.start.Real :=
  Promise.decode? <|
    ((promise_true (required "programID" string?)).map fun _ _ _ hstart _ _ _ _ _ _ _ _ =>
        hstart)
      |>.apply (promise_field Instant.promises_ofJson? (by simp))
      |>.pass (withDefault "duration" (signed? 64) 0)
      |>.pass (nullable "md5" string?)
      |>.pass (nullable "audioProperties" (list? string?))
      |>.pass (nullable "videoProperties" (list? string?))
      |>.pass (nullable "new" bool?)
      |>.pass (nullable "liveTapeDelay" string?)
      |>.pass (withDefault "premiere" bool? false)
      |>.pass (nullable "isPremiereOrFinale" string?)

/-- The identity with all units of the start in it. -/
def exactIdentity (airing : Airing) (channel : String) : String :=
  airing.programId ++ "T" ++ Text.integer airing.start.units ++ "C" ++ channel

/-- The start is counted without leaving the word, and the identity shows all of it. -/
structure Exact (airing : Airing) : Prop where
  counted : airing.start.Counted
  ticks : airing.start.ticks? = some airing.start.units
  identity : ∀ channel, airing.identity? channel = some (airing.exactIdentity channel)

theorem exact_of_spanned {airing : Airing} (h : airing.start.Spanned) : airing.Exact where
  counted := Instant.counted_iff.mpr h
  ticks := Instant.ticks?_of_spanned h
  identity _ := identity?_eq_some_iff.mpr ⟨h, rfl⟩

end Airing

namespace ScheduleDay

open Json Fields

theorem promises_ofJson? :
    Promises ofJson? fun day => ∀ airing ∈ day.airings, airing.start.Real :=
  Promise.decode? <|
    ((promise_true (withDefault "stationID" string? "")).map fun _ _ _ hairings => hairings)
      |>.apply (promise_field Airing.promises_ofJson?.list (by simp))

theorem real_of_days {payload : Json} {days : List ScheduleDay}
    (h : list? ofJson? payload = some days) :
    ∀ airing ∈ airingsOf days, airing.start.Real := by
  intro airing hairing
  obtain ⟨day, hday, hmem⟩ := List.mem_flatMap.mp hairing
  exact promises_ofJson?.list h day hday airing hmem

end ScheduleDay

open ProgramRecord in
/-- Of every schedule that can be read, the starts within the span are counted exactly and
in their order, the leap seconds apart, and a schedule of such starts has records that show
it. -/
theorem ticks_of_schedule {payload : Json} {days : List ScheduleDay}
    (h : Json.list? ScheduleDay.ofJson? payload = some days) :
    (∀ airing ∈ airingsOf days, airing.start.Spanned → airing.Exact) ∧
    (∀ airing ∈ airingsOf days,
      airing.start.InYears (-27257) 29227 → airing.start.Spanned) ∧
    (∀ a ∈ airingsOf days, ∀ b ∈ airingsOf days, a.start.Spanned → b.start.Spanned →
      a.start.before b.start = true → ¬a.start.RunsPast b.start →
      ∃ m n, a.start.ticks? = some m ∧ b.start.ticks? = some n ∧ m ≤ n) ∧
    ∀ (channel base : String) (details : List ProgramDetails) (artwork : ArtworkIndex),
      (∀ airing ∈ airingsOf days, Joinable details airing) →
      ∃ records, mergeAll channel days details artwork base = .ok records ∧
        List.Forall₂ (fun airing record => record.id = airing.exactIdentity channel)
          (airingsOf days) records := by
  refine ⟨fun _ _ => Airing.exact_of_spanned, fun _ _ => Instant.spanned_of_inYears, ?_, ?_⟩
  · intro a ha b _ haspan hbspan hbefore hpast
    exact ⟨_, _, Instant.ticks?_of_spanned haspan, Instant.ticks?_of_spanned hbspan,
      Instant.units_le_of_before (ScheduleDay.real_of_days h a ha) hbefore hpast⟩
  · intro channel base details artwork hall
    obtain ⟨records, hmerge⟩ := mergeAll_of_joinable hall
    refine ⟨records, hmerge, (mergeAll_eq_ok_iff.mp hmerge).imp ?_⟩
    intro airing record hrecord
    obtain ⟨found, -, hfound⟩ := ofAiring_eq_ok_iff.mp hrecord
    obtain ⟨identity, hidentity, rfl⟩ := merge?_eq_some_iff.mp hfound
    exact (Airing.identity?_eq_some_iff.mp hidentity).2.symm

/-! ## Far years and leap seconds -/

namespace Extremes

def airing (id start : String) : Json :=
  .object [("programID", .string id), ("airDateTime", .string start)]

def near : List Json :=
  [airing "EP01" "2016-12-31T23:59:60.5Z", airing "EP02" "2017-01-01T00:00:00Z",
   airing "EP03" "2017-01-01T00:00:01Z"]

def payload (airings : List Json) : Json := .array [.object [("programs", .array airings)]]

def read (id : String) (start : Instant) : Airing :=
  ⟨id, start, 0, none, none, none, none, none, false, none⟩

def leap : Airing := read "EP01" ⟨1483228799, 1500000000⟩

def behind : Airing := read "EP02" ⟨1483228800, 0⟩

def later : Airing := read "EP03" ⟨1483228801, 0⟩

def far : Airing := read "EP04" ⟨884541340800, 0⟩

def days : List ScheduleDay := [⟨"", [leap, behind, later]⟩]

def farDays : List ScheduleDay := [⟨"", [leap, behind, later, far]⟩]

def details : List ProgramDetails :=
  ["EP01", "EP02", "EP03", "EP04"].map
    fun id => ⟨id, [], none, none, none, [], none, none, none, [], none, false⟩

theorem days_of_payload : Json.list? ScheduleDay.ofJson? (payload near) = some days := by
  decide +kernel

theorem farDays_of_payload :
    Json.list? ScheduleDay.ofJson? (payload (near ++ [airing "EP04" "+30000-01-01T00:00:00Z"])) =
      some farDays := by
  decide +kernel

end Extremes

open Extremes ProgramRecord in
theorem ticks_of_schedule_extremes :
    Json.list? ScheduleDay.ofJson? (payload near) = some days ∧
    leap.start.InYears (-27257) 29227 ∧ leap.start.Spanned ∧ leap.Exact ∧
    leap.start.before later.start = true ∧
    (∃ m n, leap.start.ticks? = some m ∧ later.start.ticks? = some n ∧ m ≤ n) ∧
    (∀ airing ∈ airingsOf days, Joinable details airing) ∧
    ∃ records, mergeAll "20454" days details [] "" = .ok records ∧
      List.Forall₂ (fun airing record => record.id = airing.exactIdentity "20454")
        (airingsOf days) records := by
  obtain ⟨hexact, hspan, horder, hmerge⟩ := ticks_of_schedule days_of_payload
  have hmem : leap ∈ airingsOf days := by decide +kernel
  have hmem' : later ∈ airingsOf days := by decide +kernel
  have hyears : leap.start.InYears (-27257) 29227 := ⟨by decide, by decide, by decide⟩
  have hleap := hspan leap hmem hyears
  have hall : ∀ airing ∈ airingsOf days, Joinable details airing := by decide +kernel
  have hlater := (hall later hmem').spanned
  have hpast : ¬leap.start.RunsPast later.start := fun h => absurd h.behind (by decide)
  exact ⟨days_of_payload, hyears, hleap, hexact leap hmem hleap, by decide,
    horder leap hmem later hmem' hleap hlater (by decide) hpast, hall,
    hmerge "20454" "" details [] hall⟩

open Extremes ProgramRecord in
/-- The far year leaves the word, so all of a schedule is lost with it, and the leap second
has more ticks than what is behind it. -/
theorem not_exact_of_extremes :
    (Json.list? ScheduleDay.ofJson?
        (payload (near ++ [airing "EP04" "+30000-01-01T00:00:00Z"])) = some farDays ∧
      far ∈ airingsOf farDays ∧ ¬far.start.Counted ∧ far.start.ticks? = none ∧
      far.identity? "20454" = none ∧
      (∀ airing ∈ airingsOf farDays, Detailed details airing) ∧
      mergeAll "20454" farDays details [] "" = .error .overflow) ∧
    leap ∈ airingsOf farDays ∧ behind ∈ airingsOf farDays ∧
    leap.start.before behind.start = true ∧
    leap.start.ticks? = some 636188256005000000 ∧
    behind.start.ticks? = some 636188256000000000 := by
  have hfar : ¬far.start.Spanned := by decide
  exact ⟨⟨farDays_of_payload, by decide +kernel, mt Instant.counted_iff.mp hfar,
      Instant.ticks?_eq_none_iff.mpr hfar, Airing.identity?_eq_none_iff.mpr hfar,
      by decide +kernel, by decide +kernel⟩,
    by decide +kernel, by decide +kernel, by decide, by decide, by decide⟩

end ProgramGuide
