import Mathlib.Algebra.Group.Int.Defs
import ProgramGuide.Proofs.Calendar.Timestamp
import ProgramGuide.Proofs.Program.Consistency

/-!
# Ends of airings

An airing ends its length after its start, where a leap second in which it starts counts
as a second of its own.  A length that is negative, too long for a count of milliseconds,
or too long for the calendar counts as none, so an airing never ends before it starts.
-/

namespace ProgramGuide

namespace Instant

/-- Nanoseconds from `t` to `u`.  When `t` stands in a leap second and `u` is past it, they
are a second more than the seconds of the two tell. -/
def elapsed (t u : Instant) : Int :=
  (u.seconds - t.seconds + if t.isLeap ∧ t.seconds < u.seconds then 1 else 0) * (billion : Int) +
    ((u.nanos : Int) - (t.nanos : Int))

/-- So many seconds after `t` is `u`, and not in another leap second. -/
structure Follows (t : Instant) (seconds : Int) (u : Instant) : Prop where
  elapsed : t.elapsed u = seconds * (billion : Int)
  regular : u.isLeap = true → u = t

def lastSecond : Int := Date.last.epochDay * 86400 + 86399

variable {t u v : Instant} {seconds : Int}

theorem follows_shift (ht : t.nanos < 2 * billion) (h : 0 ≤ seconds) :
    t.Follows seconds (t.shift seconds 0) := by
  rw [shift_whole ht h]
  split
  next hzero => exact ⟨by simp [elapsed, hzero], fun _ => rfl⟩
  next hne =>
    constructor
    · simp only [elapsed, isLeap, decide_eq_true_eq]
      unfold billion at *
      split <;> omega
    · simp only [isLeap, decide_eq_true_eq]
      unfold billion
      omega

theorem Follows.unique (ht : t.nanos < 2 * billion) (hu : t.Follows seconds u)
    (hv : t.Follows seconds v) : u = v := by
  have hregular {w : Instant} (hw : t.Follows seconds w) :
      billion ≤ w.nanos → w.seconds = t.seconds ∧ w.nanos = t.nanos := by
    intro hleap
    simp [hw.regular (by simpa [isLeap] using hleap)]
  have hsame := hu.elapsed.trans hv.elapsed.symm
  have hu := hregular hu
  have hv := hregular hv
  simp only [Instant.elapsed, isLeap, decide_eq_true_eq] at hsame
  unfold billion at *
  obtain ⟨hseconds, hnanos⟩ : u.seconds = v.seconds ∧ u.nanos = v.nanos := by
    split at hsame <;> split at hsame <;> omega
  cases u
  cases v
  simp_all

theorem inRange_iff : t.inRange = true ↔
    Date.first.epochDay * 86400 ≤ t.seconds ∧ t.seconds ≤ lastSecond := by
  unfold inRange Date.inRange date lastSecond
  simp only [Bool.and_eq_true, decide_eq_true_eq]
  omega

theorem later?_whole (ht : t.Real) (h : 0 ≤ seconds) : t.later? seconds 0 =
    if t.seconds + seconds ≤ lastSecond then some (t.shift seconds 0) else none := by
  have hfirst := (inRange_iff.mp ht.inRange).1
  have hseconds : (t.shift seconds 0).seconds = t.seconds + seconds := by
    rw [shift_whole ht.nanos_lt h]
    split <;> simp_all
  have hrange : (t.shift seconds 0).inRange = true ↔ t.seconds + seconds ≤ lastSecond := by
    rw [inRange_iff, hseconds]
    omega
  simp only [later?, hrange]

theorem real_shift (ht : t.Real) (h : 0 ≤ seconds)
    (hreaches : t.seconds + seconds ≤ lastSecond) : (t.shift seconds 0).Real := by
  have hfirst := (inRange_iff.mp ht.inRange).1
  have hmod : t.nanos % billion < billion := Nat.mod_lt _ (by decide)
  rw [shift_whole ht.nanos_lt h]
  split
  next => exact ht
  next => exact ⟨inRange_iff.mpr ⟨by simp only; omega, hreaches⟩, by simp only; omega⟩

end Instant

namespace Airing

variable {airing : Airing}

/-- The length is not negative, and neither a signed word of milliseconds nor the calendar
is too short for it. -/
structure Usable (airing : Airing) : Prop where
  nonneg : 0 ≤ airing.duration
  counted : airing.duration * 1000 < 2 ^ 63
  reaches : airing.start.seconds + airing.duration ≤ Instant.lastSecond

theorem stop_of_usable (hstart : airing.start.Real) (h : airing.Usable) :
    airing.stop = airing.start.shift airing.duration 0 := by
  obtain ⟨hnonneg, hcounted, hreaches⟩ := h
  have hlength : airing.duration ≤ 9223372036854775 := by omega
  simp [stop, Instant.later?_whole hstart hnonneg, hnonneg, hlength, hreaches]

theorem stop_of_not_usable (hstart : airing.start.Real) (h : ¬airing.Usable) :
    airing.stop = airing.start := by
  unfold stop
  split
  next hlength =>
    simp only [Bool.and_eq_true, decide_eq_true_eq] at hlength
    obtain ⟨hnonneg, hcounted⟩ := hlength
    have hbeyond : ¬airing.start.seconds + airing.duration ≤ Instant.lastSecond :=
      fun hreaches => h ⟨hnonneg, by omega, hreaches⟩
    simp [Instant.later?_whole hstart hnonneg, hbeyond]
  next => rfl

/-- Wherever an airing starts and whatever length it has, it ends at an instant of the
calendar and not before its start: that length later, when it can be used, else at once. -/
theorem stop_exact (hstart : airing.start.Real) :
    airing.stop.Real ∧
    airing.stop.before airing.start = false ∧
    (airing.duration = 0 → airing.stop = airing.start) ∧
    (airing.Usable → ∀ stop : Instant,
      airing.start.Follows airing.duration stop ↔ stop = airing.stop) ∧
    (¬airing.Usable → airing.stop = airing.start) := by
  refine ⟨?_, airing.stop_not_before, ?_, ?_, stop_of_not_usable hstart⟩
  · by_cases h : airing.Usable
    · rw [stop_of_usable hstart h]
      exact Instant.real_shift hstart h.nonneg h.reaches
    · rwa [stop_of_not_usable hstart h]
  · intro hzero
    by_cases h : airing.Usable
    · rw [stop_of_usable hstart h, Instant.shift_whole hstart.nanos_lt h.nonneg, if_pos hzero]
    · exact stop_of_not_usable hstart h
  · intro h stop
    have hfollows := Instant.follows_shift hstart.nanos_lt h.nonneg
    rw [← stop_of_usable hstart h] at hfollows
    constructor
    · exact fun hstop => hstop.unique hstart.nanos_lt hfollows
    · rintro rfl
      exact hfollows

def overLeap : Airing :=
  ⟨"EP01", ⟨1483228799, 1500000000⟩, 1800, none, none, none, none, none, false, none⟩

def overEnd : Airing :=
  ⟨"EP01", ⟨Instant.lastSecond, 1500000000⟩, 1, none, none, none, none, none, false, none⟩

theorem stop_exact_leapSecond :
    overLeap.start.Real ∧ overLeap.Usable ∧ overLeap.stop = ⟨1483230599, 500000000⟩ ∧
    overEnd.start.Real ∧ ¬overEnd.Usable ∧ overEnd.stop = overEnd.start := by
  have hleap : overLeap.start.Real := ⟨by decide +kernel, by decide⟩
  have hend : overEnd.start.Real := ⟨by decide +kernel, by decide⟩
  have husable : overLeap.Usable := ⟨by decide, by decide, by decide +kernel⟩
  have hbeyond : ¬overEnd.Usable := fun h => absurd h.reaches (by decide +kernel)
  obtain ⟨-, -, -, hexact, -⟩ := stop_exact hleap
  obtain ⟨-, -, -, -, hcollapses⟩ := stop_exact hend
  have hstop : (⟨1483230599, 500000000⟩ : Instant) = overLeap.stop :=
    (hexact husable _).mp ⟨by decide +kernel, by decide +kernel⟩
  exact ⟨hleap, husable, hstop.symm, hend, hbeyond, hcollapses hbeyond⟩

end Airing

end ProgramGuide
