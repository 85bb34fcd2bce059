import ProgramGuide.Proofs.Calendar.Span
import ProgramGuide.Proofs.Schedule.Stop
import ProgramGuide.Proofs.Service.Acquisition
import ProgramGuide.Proofs.Service.Crowd
import ProgramGuide.Proofs.Service.Lull

/-!
# The edge of a cool-down

A rejection, the clock and the length of the cool-down are compared in whole milliseconds,
and what each has beyond them is lost.  So a cool-down may end a little before its length
is over, and in leap seconds by that second earlier or later.
-/

namespace ProgramGuide

/-! ## What is lost -/

/-- Nanoseconds beyond the last whole millisecond. -/
def Instant.excess (t : Instant) : Nat := t.nanos % 1000000

def Span.excess (s : Span) : Nat := s.nanos % 1000000

/-- The leap second that counts as a second from `f` to `n`. -/
def Instant.leapSince (n f : Instant) : Int :=
  if f.secondOfDay < n.secondOfDay then if f.isLeap then 1 else 0
  else if n.secondOfDay < f.secondOfDay then if n.isLeap then -1 else 0
  else 0

/-- By how many nanoseconds a cool-down from `f` is over too early at `n`. -/
def Span.shortfall (cooldown : Span) (f n : Instant) : Int :=
  f.excess + cooldown.excess - n.excess - n.leapSince f * Instant.billion

section

variable {f n : Instant} {lifetime cooldown : Span}

theorem Instant.leapSince_of_regular (hf : f.isLeap = false) (hn : n.isLeap = false) :
    n.leapSince f = 0 := by
  rw [leapSince, hf, hn]
  simp

theorem Instant.milliseconds_sub (n f : Instant) :
    (n.milliseconds - f.milliseconds) * 1000000 =
      n.since f - n.leapSince f * billion + f.excess - n.excess := by
  have hsince : n.since f = (n.seconds - f.seconds + n.leapSince f) * (billion : Int) +
      ((n.nanos : Int) - (f.nanos : Int)) := rfl
  rw [hsince]
  simp only [milliseconds, excess, billion]
  omega

/-- Between instants of the calendar a count of milliseconds never comes near the longest
cool-down. -/
theorem Instant.milliseconds_sub_lt (hf : f.Real) (hn : n.Real) :
    n.milliseconds - f.milliseconds < 9223372036854775807 := by
  have hfirst := (inRange_iff.mp hf.inRange).1
  have hlast := (inRange_iff.mp hn.inRange).2
  have hnanos := hn.nanos_lt
  have hepoch : Date.first.epochDay = -96465292 := by decide +kernel
  have hend : lastSecond = 8210266876799 := by decide +kernel
  simp only [milliseconds, billion] at *
  omega

theorem Span.lt_window_iff {x : Int} (hx : x < 9223372036854775807) :
    x < cooldown.window / 1000000 ↔ x * 1000000 + cooldown.excess < cooldown.length := by
  have hlimit : (Nat.pow 2 63 - 1) * 1000000 = 9223372036854775807000000 := by decide
  simp only [window, hlimit, excess, length, billion]
  omega

theorem TokenStore.coolingDown_iff (lifetime cooldown : Span) (hf : f.Real) (hn : n.Real) :
    coolingDown (.ofSpans lifetime cooldown) f.milliseconds n = true ↔
      n.since f + cooldown.shortfall f n < cooldown.length := by
  have helapsed := Instant.milliseconds_sub n f
  rw [coolingDown, decide_eq_true_eq, TokenPolicy.ofSpans,
    Span.lt_window_iff (Instant.milliseconds_sub_lt hf hn)]
  unfold Span.shortfall
  omega

/-- How a cool-down that a rejection at `f` has started stands at `n`. -/
structure Span.Edge (cooldown : Span) (f n : Instant) (cooling : Bool) : Prop where
  cooling_iff : cooling = true ↔ n.since f + cooldown.shortfall f n < cooldown.length
  /-- It does not outlast its length, -/
  on_time : f.isLeap = false → n.isLeap = false → cooling = true → n.since f < cooldown.length
  /-- it is over less than two milliseconds early, -/
  nearly : f.isLeap = false → n.isLeap = false → n.since f + 1999998 < cooldown.length →
    cooling = true
  /-- and it is exact where nothing is lost, -/
  exact_of_whole : f.isLeap = false → n.isLeap = false → f.excess = 0 → cooldown.excess = 0 →
    (cooling = true ↔ n.since f < cooldown.length)
  /-- but for its last nanosecond nowhere else. -/
  last_iff : f.isLeap = false → n.isLeap = false → n.since f + 1 = cooldown.length →
    (cooling = true ↔ f.excess = 0 ∧ cooldown.excess = 0)

theorem Span.edge_coolingDown (hf : f.Real) (hn : n.Real) :
    cooldown.Edge f n
      (TokenStore.coolingDown (.ofSpans lifetime cooldown) f.milliseconds n) := by
  have hiff := TokenStore.coolingDown_iff lifetime cooldown hf hn
  -- Of regular instants the milliseconds between them and what is lost make up the whole.
  have hregular (hleap : f.isLeap = false) (hleap' : n.isLeap = false) :
      cooldown.shortfall f n = (f.excess : Int) + cooldown.excess - n.excess ∧
        (n.milliseconds - f.milliseconds) * 1000000 = n.since f + f.excess - n.excess := by
    have helapsed := Instant.milliseconds_sub n f
    rw [shortfall, Instant.leapSince_of_regular hleap hleap', Int.zero_mul] at *
    omega
  have hf_lt : f.excess < 1000000 := Nat.mod_lt _ (by decide)
  have hn_lt : n.excess < 1000000 := Nat.mod_lt _ (by decide)
  obtain ⟨whole, hlength⟩ : ∃ whole, cooldown.length = whole * 1000000 + cooldown.excess :=
    ⟨cooldown.length / 1000000, by simp only [length, excess, billion]; omega⟩
  have hexcess : cooldown.excess < 1000000 := Nat.mod_lt _ (by decide)
  refine ⟨hiff, ?_, ?_, ?_, ?_⟩ <;> intro hleap hleap'
  all_goals
    obtain ⟨hshortfall, helapsed⟩ := hregular hleap hleap'
    rw [hiff, hshortfall]
    omega

end

/-! ## Rejections -/

namespace Tokens

variable {policy : TokenPolicy} {c : Credentials} {store store' : TokenStore}
variable {before : List Event} {answer : Except Failure Response} {now : Instant}
variable {result : Except Failure (Option String)}

theorem not_grants_of_rejection {token : String} (h : statusOf answer = some 400) :
    ¬Grants answer token := by
  rintro ⟨response, -, rfl, -, hsuccess, -⟩
  simp only [statusOf, Option.some.injEq] at h
  omega

/-- A rejection leaves no token, and the reading of the clock that follows it. -/
theorem store_of_rejection
    (h : Acquired policy c store
      (before ++ [.exchange (request c) true answer, .read now]) result store')
    (hstatus : statusOf answer = some 400) : store' = ⟨[], some now.milliseconds⟩ := by
  generalize hevents : before ++ [.exchange (request c) true answer, .read now] = events at h
  have hasked : events.filterMap Event.request? ≠ [] := by
    rw [← hevents, List.filterMap_append]
    exact List.append_ne_nil_of_right_ne_nil _ (List.cons_ne_nil (request c) [])
  cases h with
  | incomplete => exact absurd rfl hasked
  | settled _ hlook => exact absurd hlook.requests hasked
  | abandoned _ hlook =>
      have hlast := congrArg List.getLast? hevents
      rw [List.getLast?_append_cons, List.getLast?_append_cons] at hlast
      cases hlast
  | settledLate _ hlook hlook' =>
      refine absurd ?_ hasked
      rw [List.filterMap_append, hlook.requests, List.filterMap_cons_none rfl, hlook'.requests,
        List.append_nil]
  | refreshed _ hlook hlook' hrefresh =>
      rw [← List.cons_append, ← List.append_assoc] at hevents
      cases hrefresh with
      | granted now' hverdict =>
          obtain ⟨-, htail⟩ := List.append_inj' hevents rfl
          cases htail
          exact absurd (verdict_eq_ok_iff_grants.mp hverdict) (not_grants_of_rejection hstatus)
      | rejected now' =>
          obtain ⟨-, htail⟩ := List.append_inj' hevents rfl
          cases htail
          rfl
      | failed =>
          have hlast := congrArg List.getLast? hevents
          rw [List.getLast?_append_cons, List.getLast?_append_cons] at hlast
          cases hlast

end Tokens

namespace System

/-- Whoever is about to ask for a token has seen the end of the cool-down. -/
theorem cooldown_over_of_asks {lifetime cooldown : Span} {provider : Provider}
    {passes : Instant → Instant → Bool} {s : System} {f : Instant} {i : Nat} {call : Call}
    {request : Request} (hpolicy : provider.policy = .ofSpans lifetime cooldown)
    (hpasses : ∀ a b, passes a b = true → a.milliseconds ≤ b.milliseconds)
    (h : s.Reachable provider passes) (hf : f.Real) (hnow : s.scene.now.Real)
    (hlast : s.scene.store.lastRejection = some f.milliseconds)
    (hasks : s.Asks i call request) (hpath : request.path = "token")
    (hown : ¬call.own request) :
    cooldown.length ≤ s.scene.now.since f + cooldown.shortfall f s.scene.now := by
  by_contra hearly
  have hcool : s.inCooldown provider.policy = true := by
    rw [hpolicy]
    unfold inCooldown Scene.inCooldown TokenStore.inCooldown
    rw [hlast]
    exact (TokenStore.coolingDown_iff lifetime cooldown hf hnow).mpr (by omega)
  exact hown (own_of_asks hpasses h hcool hasks hpath)

end System

open Tokens in
/-- What a rejection leaves is when the clock was read after it, in whole milliseconds; the
cool-down stands as these tell; and no token is asked for, whatever the calls and the
answers, before it is over. -/
theorem cooldown_edge (lifetime cooldown : Span) :
    (∀ c store o before answer f,
      ((acquire (.ofSpans lifetime cooldown) c).play store o).events =
        before ++ [.exchange (request c) true answer, .read f] →
      statusOf answer = some 400 →
      ((acquire (.ofSpans lifetime cooldown) c).play store o).store =
        ⟨[], some f.milliseconds⟩) ∧
    (∀ (store : TokenStore) (f n : Instant), store.lastRejection = some f.milliseconds →
      f.Real → n.Real →
      cooldown.Edge f n (store.inCooldown (.ofSpans lifetime cooldown) n)) ∧
    ∀ provider passes (s : System) f i call request,
      provider.policy = .ofSpans lifetime cooldown →
      (∀ a b, passes a b = true → a.milliseconds ≤ b.milliseconds) →
      s.Reachable provider passes → f.Real → s.scene.now.Real →
      s.scene.store.lastRejection = some f.milliseconds →
      s.Asks i call request → request.path = "token" → ¬call.own request →
      cooldown.length ≤ s.scene.now.since f + cooldown.shortfall f s.scene.now := by
  refine ⟨fun c store o before answer f hevents hstatus => ?_, fun store f n hlast hf hn => ?_,
    fun provider passes s f i call request hpolicy hpasses h hf hnow hlast hasks hpath hown =>
      System.cooldown_over_of_asks hpolicy hpasses h hf hnow hlast hasks hpath hown⟩
  · have hruns := acquire_path
      (Operation.play_runs (acquire (.ofSpans lifetime cooldown) c) store o)
    rw [hevents] at hruns
    exact store_of_rejection hruns hstatus
  · rw [TokenStore.inCooldown, hlast]
    exact Span.edge_coolingDown hf hn

namespace Tokens

def pausing : TokenPolicy := .ofSpans (.ofSeconds 72000) (.ofSeconds 60)

def pastMidnight : Instant := ⟨1704412800, 900000⟩

def minutePast : Instant := ⟨1704412860, 0⟩

def refusing (now : Instant) : Outside := fun _ => ⟨now, false, .ok ⟨400, ""⟩⟩

def refused : Played (Except Failure (Option String)) :=
  (acquire pausing System.viewer).play .empty (refusing pastMidnight)

def secondTry : List Cue :=
  System.rejection ++ .elapse minutePast :: .begin (.acquire System.viewer) ::
    List.replicate 7 (.go 1)

end Tokens

open Tokens in
theorem cooldown_edge_secondTry :
    refused.store = ⟨[], some pastMidnight.milliseconds⟩ ∧
    Span.Edge (.ofSeconds 60) pastMidnight minutePast
      (refused.store.inCooldown pausing minutePast) ∧
    ∃ s : System, s.scene.now = minutePast ∧
      s.scene.store.lastRejection = some pastMidnight.milliseconds ∧
      s.Asks 1 (.acquire System.viewer) (request System.viewer) ∧
      (Span.ofSeconds 60).length ≤
        minutePast.since pastMidnight + (Span.ofSeconds 60).shortfall pastMidnight minutePast := by
  obtain ⟨hrejection, hedge, hasked⟩ := cooldown_edge (.ofSeconds 72000) (.ofSeconds 60)
  have hstore : refused.store = ⟨[], some pastMidnight.milliseconds⟩ :=
    hrejection System.viewer .empty (refusing pastMidnight) [.wait true] (.ok ⟨400, ""⟩)
      pastMidnight (by decide +kernel) rfl
  have hf : pastMidnight.Real := ⟨by decide +kernel, by decide⟩
  have hn : minutePast.Real := ⟨by decide +kernel, by decide⟩
  refine ⟨hstore, hedge _ _ _ (by rw [hstore]) hf hn, ?_⟩
  let provider : Provider := ⟨pausing, .fixed 0, ""⟩
  let passes (a b : Instant) : Bool := decide (a.milliseconds ≤ b.milliseconds)
  have hrun : ((secondTry.foldlM (System.perform provider passes)
      (System.start pastMidnight)).any fun s =>
        s.scene.now == minutePast &&
        s.scene.store.lastRejection == some pastMidnight.milliseconds &&
        s.threads[1]?.any System.asksAgain) = true := by
    decide +kernel
  obtain ⟨s, hs, hchecks⟩ := (Option.any_eq_true ..).mp hrun
  simp only [Bool.and_eq_true, beq_iff_eq] at hchecks
  obtain ⟨⟨hnow, hlast⟩, hthread⟩ := hchecks
  have hasks := System.asks_of_asksAgain hthread
  have hreach := System.reachable_of_perform (.start pastMidnight) hs
  have hlength := hasked provider passes s pastMidnight 1 _ _ rfl
    (fun _ _ h => of_decide_eq_true h) hreach hf (hnow ▸ hn) hlast hasks rfl not_false
  rw [hnow] at hlength
  exact ⟨s, hnow, hlast, hasks, hlength⟩

open Tokens in
/-- A token is asked for 59.9991 seconds after a rejection that was to pause for 60. -/
theorem not_cooldown_exact_of_excess :
    (refused.events = [.wait true, .exchange (request System.viewer) true (.ok ⟨400, ""⟩),
        .read pastMidnight] ∧ statusOf (.ok ⟨400, ""⟩) = some 400) ∧
    ¬∀ n : Instant, n.before pastMidnight = false →
      (refused.store.inCooldown pausing n = true ↔
        n.since pastMidnight < (Span.ofSeconds 60).length) ∧
      (((acquire pausing System.viewer).play refused.store (refusing n)).requests ≠ [] →
        (Span.ofSeconds 60).length ≤ n.since pastMidnight) := by
  refine ⟨by decide +kernel, fun hexact => ?_⟩
  obtain ⟨-, hasked⟩ := hexact minutePast (by decide +kernel)
  exact absurd (hasked (by decide +kernel)) (by decide +kernel)

end ProgramGuide
