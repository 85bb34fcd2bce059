import Mathlib.Data.List.Chain
import Mathlib.Data.Set.Card
import Mathlib.Data.Int.ConditionallyCompleteOrder
import Mathlib.Data.Int.Interval
import ProgramGuide.Proofs.Calendar.Date
import ProgramGuide.Schedule.Window

/-!
# The dates of a window

A run of dates follows the calendar day by day.  The run that is asked for holds the UTC
and the local date of every instant of the window, and in a zone of fixed offset it is at
most one date longer than the window itself.
-/

namespace ProgramGuide

/-! ## Runs of dates -/

namespace Date

variable {a b d : Date}

theorem upTo_eq (h : b.epochDay < last.epochDay) :
    a.upTo b = (List.range (b.epochDay - a.epochDay + 1).toNat).map
      fun k : Nat => ⟨a.epochDay + (k : Int)⟩ := by
  have hstop : Min.min b.epochDay (last.epochDay - 1) = b.epochDay := by omega
  simp only [upTo, hstop]

theorem mem_upTo (h : b.epochDay < last.epochDay) :
    d ∈ a.upTo b ↔ a.epochDay ≤ d.epochDay ∧ d.epochDay ≤ b.epochDay := by
  simp only [upTo_eq h, List.mem_map, List.mem_range, eq_iff_epochDay]
  constructor
  · rintro ⟨k, hk, hd⟩
    omega
  · rintro ⟨hfirst, hlast⟩
    exact ⟨(d.epochDay - a.epochDay).toNat, by omega, by omega⟩

theorem length_upTo (h : b.epochDay < last.epochDay) :
    (a.upTo b).length = (b.epochDay - a.epochDay + 1).toNat := by
  simp [upTo_eq h]

theorem isChain_upTo (a b : Date) :
    (a.upTo b).IsChain fun d e => e.epochDay = d.epochDay + 1 := by
  unfold upTo
  rw [List.isChain_map, List.isChain_range]
  intro k _
  simp only [Nat.succ_eq_add_one]
  omega

theorem pairwise_upTo (a b : Date) :
    (a.upTo b).Pairwise fun d e => d.epochDay < e.epochDay := by
  unfold upTo
  rw [List.pairwise_map]
  apply List.pairwise_lt_range.imp
  intro k l hkl
  simp only
  omega

theorem head?_upTo (h : b.epochDay < last.epochDay) (hle : a.epochDay ≤ b.epochDay) :
    (a.upTo b).head? = some a := by
  have hlength : (b.epochDay - a.epochDay + 1).toNat ≠ 0 := by omega
  simp [upTo_eq h, List.head?_range, hlength]

theorem getLast?_upTo (h : b.epochDay < last.epochDay) (hle : a.epochDay ≤ b.epochDay) :
    (a.upTo b).getLast? = some b := by
  have hlength : (b.epochDay - a.epochDay + 1).toNat ≠ 0 := by omega
  simp [upTo_eq h, List.getLast?_range, hlength, eq_iff_epochDay]
  omega

theorem epochDay_min (a b : Date) :
    (a.min b).epochDay = Min.min a.epochDay b.epochDay := by
  unfold Date.min
  split <;> omega

theorem epochDay_max (a b : Date) :
    (a.max b).epochDay = Max.max a.epochDay b.epochDay := by
  unfold Date.max
  split <;> omega

end Date

/-! ## Windows -/

/-- The instants of a window, its ends included. -/
def InWindow (start stop t : Instant) : Prop :=
  t.before start = false ∧ stop.before t = false

/-- The UTC dates that a window touches. -/
def touchedDates (start stop : Instant) : Set Date :=
  {d | ∃ t, InWindow start stop t ∧ t.date = d}

/-- Local dates do not go back within a window. -/
def Rising (localDate : Instant → Date) (start stop : Instant) : Prop :=
  ∀ t u, InWindow start stop t → InWindow start stop u → u.before t = false →
    (localDate t).epochDay ≤ (localDate u).epochDay

/-- Dates that follow one another in the calendar, from the earlier one of the start to
the later one of the stop, with both dates of every instant between them. -/
structure Covers (localDate : Instant → Date) (start stop : Instant) (dates : List Date) :
    Prop where
  consecutive : dates.IsChain fun d e => e.civil = d.civil.next
  increasing : dates.Pairwise fun d e => d.epochDay < e.epochDay
  valid : ∀ d ∈ dates, d.civil.isValid = true
  texts_nodup : (dates.map Date.text).Nodup
  begins : ∃ d, dates.head? = some d ∧ (d = start.date ∨ d = localDate start) ∧
    d.epochDay ≤ start.date.epochDay ∧ d.epochDay ≤ (localDate start).epochDay
  ends : ∃ d, dates.getLast? = some d ∧ (d = stop.date ∨ d = localDate stop) ∧
    stop.date.epochDay ≤ d.epochDay ∧ (localDate stop).epochDay ≤ d.epochDay
  mem : ∀ t, InWindow start stop t → t.date ∈ dates ∧ localDate t ∈ dates

section Window

variable {localDate : Instant → Date} {start stop t : Instant}

theorem inWindow_start (h : stop.before start = false) : InWindow start stop start :=
  ⟨Instant.before_eq_false_iff.mpr (.inr ⟨rfl, Nat.le_refl _⟩), h⟩

theorem inWindow_stop (h : stop.before start = false) : InWindow start stop stop :=
  ⟨h, Instant.before_eq_false_iff.mpr (.inr ⟨rfl, Nat.le_refl _⟩)⟩

theorem seconds_of_inWindow (h : InWindow start stop t) :
    start.seconds ≤ t.seconds ∧ t.seconds ≤ stop.seconds := by
  have hstart := Instant.before_eq_false_iff.mp h.1
  have hstop := Instant.before_eq_false_iff.mp h.2
  omega

theorem date_of_inWindow (h : InWindow start stop t) :
    start.date.epochDay ≤ t.date.epochDay ∧ t.date.epochDay ≤ stop.date.epochDay := by
  have hseconds := seconds_of_inWindow h
  simp only [Instant.date]
  omega

theorem localDate_of_inWindow (hrising : Rising localDate start stop)
    (hwindow : stop.before start = false) (h : InWindow start stop t) :
    (localDate start).epochDay ≤ (localDate t).epochDay ∧
      (localDate t).epochDay ≤ (localDate stop).epochDay :=
  ⟨hrising start t (inWindow_start hwindow) h h.1,
    hrising t stop h (inWindow_stop hwindow) h.2⟩

/-- A day between those of the start and the stop is touched when it begins. -/
theorem touchedDates_eq (h : stop.before start = false) :
    touchedDates start stop =
      Date.mk '' Set.Icc start.date.epochDay stop.date.epochDay := by
  ext ⟨day⟩
  simp only [touchedDates, Set.mem_ofPred_eq, Set.mem_image, Set.mem_Icc, Date.mk.injEq,
    exists_eq_right]
  constructor
  · rintro ⟨t, ht, hday⟩
    have hdate := date_of_inWindow ht
    rwa [hday] at hdate
  · rintro ⟨hfirst, hlast⟩
    by_cases hstart : day = start.date.epochDay
    · exact ⟨start, inWindow_start h, Date.eq_iff_epochDay.mpr hstart.symm⟩
    · by_cases hstop : day = stop.date.epochDay
      · exact ⟨stop, inWindow_stop h, Date.eq_iff_epochDay.mpr hstop.symm⟩
      · simp only [Instant.date] at hfirst hlast hstart hstop
        refine ⟨⟨day * 86400, 0⟩, ⟨?_, ?_⟩, Date.eq_iff_epochDay.mpr ?_⟩
        · exact Instant.before_eq_false_iff.mpr (.inl (by simp only; omega))
        · exact Instant.before_eq_false_iff.mpr (.inl (by simp only; omega))
        · simp only [Instant.date]
          omega

theorem ncard_touchedDates (h : stop.before start = false) :
    (touchedDates start stop).ncard =
      (stop.date.epochDay - start.date.epochDay + 1).toNat := by
  have hinjective : Function.Injective Date.mk := fun _ _ heq => Date.mk.inj heq
  rw [touchedDates_eq h, Set.ncard_image_of_injective _ hinjective, ← Finset.coe_Icc,
    Set.ncard_coe_finset, Int.card_Icc]
  omega

theorem rising_fixed (offset : Int) : Rising (Zone.fixed offset).localDate start stop := by
  intro t u _ _ h
  have hseconds := Instant.before_eq_false_iff.mp h
  simp only [Zone.fixed, Instant.date]
  omega

theorem covers_datesAround (hwindow : stop.before start = false)
    (hrising : Rising localDate start stop)
    (hutc : stop.date.epochDay < Date.last.epochDay)
    (hlocal : (localDate stop).epochDay < Date.last.epochDay) :
    Covers localDate start stop (datesAround localDate start stop) := by
  have hfirst := Date.epochDay_min start.date (localDate start)
  have hlast := Date.epochDay_max stop.date (localDate stop)
  have hend : (stop.date.max (localDate stop)).epochDay < Date.last.epochDay := by omega
  have hspan := date_of_inWindow (inWindow_start hwindow)
  have hle : (start.date.min (localDate start)).epochDay ≤
      (stop.date.max (localDate stop)).epochDay := by omega
  refine ⟨?_, Date.pairwise_upTo _ _, fun d _ => d.isValid_civil, ?_, ?_, ?_, ?_⟩
  · apply (Date.isChain_upTo _ _).imp
    intro d e hnext
    rw [← Date.civil_next, ← hnext]
  · rw [List.nodup_map_iff Date.text_injective]
    apply (Date.pairwise_upTo _ _).imp
    rintro d e hlt rfl
    omega
  · refine ⟨_, Date.head?_upTo hend hle, ?_, by omega, by omega⟩
    simp only [Date.eq_iff_epochDay]
    omega
  · refine ⟨_, Date.getLast?_upTo hend hle, ?_, by omega, by omega⟩
    simp only [Date.eq_iff_epochDay]
    omega
  · intro t ht
    have hutc := date_of_inWindow ht
    have hlocal := localDate_of_inWindow hrising hwindow ht
    simp only [datesAround, Date.mem_upTo hend]
    omega

/-- An offset below a day moves one end of the window by one date at most. -/
theorem length_requestDates_le {offset : Int} (hoffset : offset.natAbs < 86400)
    (hwindow : stop.before start = false)
    (hutc : stop.date.epochDay < Date.last.epochDay)
    (hlocal : ((Zone.fixed offset).localDate stop).epochDay < Date.last.epochDay) :
    (requestDates start stop (.fixed offset)).length ≤ (touchedDates start stop).ncard + 1 := by
  have hfirst := Date.epochDay_min start.date ((Zone.fixed offset).localDate start)
  have hlast := Date.epochDay_max stop.date ((Zone.fixed offset).localDate stop)
  have hend : (stop.date.max ((Zone.fixed offset).localDate stop)).epochDay <
      Date.last.epochDay := by omega
  have hspan := date_of_inWindow (inWindow_start hwindow)
  rw [requestDates, datesAround, Date.length_upTo hend, ncard_touchedDates hwindow]
  simp only [Zone.fixed, Instant.date] at hfirst hlast hspan ⊢
  omega

end Window

/-- The dates that are asked for cover the window, in a zone of fixed offset with one
date to spare at most, and in any other as long as its dates do not go back. -/
theorem requestDates_cover {start stop : Instant} (hwindow : stop.before start = false)
    (hutc : stop.date.epochDay < Date.last.epochDay) :
    (∀ offset : Int, offset.natAbs < 86400 →
      ((Zone.fixed offset).localDate stop).epochDay < Date.last.epochDay →
        Covers (Zone.fixed offset).localDate start stop
            (requestDates start stop (.fixed offset)) ∧
          (requestDates start stop (.fixed offset)).length ≤
            (touchedDates start stop).ncard + 1) ∧
    ∀ localDate : Instant → Date, Rising localDate start stop →
      (localDate stop).epochDay < Date.last.epochDay →
        Covers localDate start stop (datesAround localDate start stop) := by
  constructor
  · intro offset hoffset hlocal
    exact ⟨covers_datesAround hwindow (rising_fixed offset) hutc hlocal,
      length_requestDates_le hoffset hwindow hutc hlocal⟩
  · intro localDate hrising hlocal
    exact covers_datesAround hwindow hrising hutc hlocal

namespace SpringForward

def start : Instant := ⟨1710045000, 0⟩

def stop : Instant := ⟨1710158400, 0⟩

/-- The clocks of New York until they are turned back in November. -/
def newYork : Zone where
  localDate t := (Zone.fixed (if t.seconds < 1710054000 then -18000 else -14400)).localDate t

theorem rising_newYork : Rising newYork.localDate start stop := by
  intro t u _ _ h
  have hseconds := Instant.before_eq_false_iff.mp h
  simp only [newYork, Zone.fixed, Instant.date]
  split <;> split <;> omega

end SpringForward

open SpringForward in
theorem requestDates_cover_springForward :
    (Covers (Zone.fixed (-18000)).localDate start stop
        (requestDates start stop (.fixed (-18000))) ∧
      (requestDates start stop (.fixed (-18000))).length ≤
        (touchedDates start stop).ncard + 1) ∧
    Covers newYork.localDate start stop
      (requestDates start stop newYork) := by
  obtain ⟨hfixed, hrising⟩ := @requestDates_cover start stop
    (by decide +kernel) (by decide +kernel)
  exact ⟨hfixed (-18000) (by decide) (by decide +kernel),
    hrising _ rising_newYork (by decide +kernel)⟩

open SpringForward in
example : (requestDates start stop newYork).map Date.text =
    ["2024-03-09", "2024-03-10", "2024-03-11"] := by
  decide +kernel

end ProgramGuide
