import Mathlib.Data.List.Basic
import ProgramGuide.Proofs.Calendar.Instant
import ProgramGuide.Proofs.Text.Numeral

/-!
# Days of the calendar

A date is a number of days, and year, month and day are a view of it.  The view is a day
of the calendar, the calendar's next day is the next number, and no two dates look the
same when they are written.
-/

namespace ProgramGuide

namespace CivilDate

/-- The next day of the calendar: of the month, else of the year, else of the next. -/
def next (c : CivilDate) : CivilDate :=
  if (monthLengths c.year)[c.month - 1]?.any (c.day < ·) then { c with day := c.day + 1 }
  else if c.month < 12 then ⟨c.year, c.month + 1, 1⟩
  else ⟨c.year + 1, 1, 1⟩

variable {c : CivilDate}

theorem length_monthLengths (year : Int) : (monthLengths year).length = 12 := rfl

theorem isLeap_iff (year : Int) :
    isLeap year = true ↔ year % 4 = 0 ∧ (year % 100 ≠ 0 ∨ year % 400 = 0) := by
  simp [isLeap]

theorem sum_monthLengths (year : Int) :
    ((monthLengths year).sum : Int) = daysBeforeYear (year + 1) - daysBeforeYear year := by
  have hleap := isLeap_iff year
  unfold monthLengths daysBeforeYear
  by_cases h : isLeap year = true
  · have hrule := hleap.mp h
    simp only [h, if_true, List.sum_cons, List.sum_nil]
    omega
  · have hrule := mt hleap.mpr h
    simp only [h, List.sum_cons, List.sum_nil]
    simp only [Bool.false_eq_true, if_false]
    omega

theorem isValid_iff :
    c.isValid = true ↔ 1 ≤ c.month ∧ 1 ≤ c.day ∧
      ∃ length, (monthLengths c.year)[c.month - 1]? = some length ∧ c.day ≤ length := by
  unfold isValid
  cases (monthLengths c.year)[c.month - 1]? with
  | none => simp
  | some length => simp [and_assoc]

theorem bounds_of_mem_monthLengths {year : Int} {length : Nat}
    (h : length ∈ monthLengths year) : 1 ≤ length ∧ length ≤ 31 := by
  have hbounds : ∀ length ∈ monthLengths year, 1 ≤ length ∧ length ≤ 31 := by
    unfold monthLengths
    split <;> decide
  exact hbounds length h

theorem month_le_of_isValid (h : c.isValid = true) : c.month ≤ 12 := by
  obtain ⟨-, -, length, hlength, -⟩ := isValid_iff.mp h
  have hlt := (List.getElem?_eq_some_iff.mp hlength).1
  rw [length_monthLengths] at hlt
  omega

theorem day_le_of_isValid (h : c.isValid = true) : c.day ≤ 31 := by
  obtain ⟨-, -, length, hlength, hle⟩ := isValid_iff.mp h
  exact Nat.le_trans hle (bounds_of_mem_monthLengths (List.mem_of_getElem? hlength)).2

end CivilDate

namespace Date

open CivilDate

theorem eq_iff_epochDay {d e : Date} : d = e ↔ d.epochDay = e.epochDay := by
  cases d
  cases e
  simp

/-! ## Days of the year -/

theorem monthAndDay_eq {lengths : List Nat} {i length : Nat}
    (hlength : lengths[i]? = some length) {day : Nat} (hday : day < length) (month : Nat) :
    monthAndDay lengths month ((lengths.take i).sum + day) = (month + i, day + 1) := by
  induction lengths generalizing i month with
  | nil => simp at hlength
  | cons first rest ih =>
      cases i with
      | zero =>
          obtain rfl : first = length := by simpa using hlength
          simp [monthAndDay, hday]
      | succ i =>
          rw [List.getElem?_cons_succ] at hlength
          have hlater : ¬first + (rest.take i).sum + day < first := by omega
          have hrest : first + (rest.take i).sum + day - first = (rest.take i).sum + day := by
            omega
          rw [List.take_succ_cons, List.sum_cons, monthAndDay, if_neg hlater, hrest,
            ih hlength]
          congr 1
          omega

theorem exists_month {lengths : List Nat} {day : Nat} (h : day < lengths.sum) :
    ∃ i length rest, lengths[i]? = some length ∧ rest < length ∧
      day = (lengths.take i).sum + rest := by
  induction lengths generalizing day with
  | nil => simp at h
  | cons first lengths ih =>
      rw [List.sum_cons] at h
      by_cases hfirst : day < first
      · exact ⟨0, first, day, rfl, hfirst, by simp⟩
      · have hlater : day - first < lengths.sum := by omega
        obtain ⟨i, length, rest, hlength, hrest, hday⟩ := ih hlater
        refine ⟨i + 1, length, rest, hlength, hrest, ?_⟩
        rw [List.take_succ_cons, List.sum_cons]
        omega

theorem sum_take_succ {lengths : List Nat} {i length : Nat}
    (h : lengths[i]? = some length) :
    (lengths.take (i + 1)).sum = (lengths.take i).sum + length := by
  rw [List.take_add_one, h]
  simp

theorem sum_take_le (lengths : List Nat) (i : Nat) :
    (lengths.take i).sum ≤ lengths.sum := by
  have hsplit : ((lengths.take i) ++ (lengths.drop i)).sum =
      (lengths.take i).sum + (lengths.drop i).sum := List.sum_append
  rw [List.take_append_drop] at hsplit
  omega

theorem yearOf_eq {day year : Int} (hle : daysBeforeYear year ≤ day)
    (hlt : day < daysBeforeYear (year + 1)) : yearOf day = year := by
  have hle' := daysBeforeYear_yearOf_le day
  have hlt' := lt_daysBeforeYear_yearOf day
  by_contra hne
  rcases Int.lt_or_gt_of_ne hne with h | h
  · have hmono : daysBeforeYear (yearOf day + 1) ≤ daysBeforeYear year :=
      daysBeforeYear_mono (by omega)
    omega
  · have hmono : daysBeforeYear (year + 1) ≤ daysBeforeYear (yearOf day) :=
      daysBeforeYear_mono (by omega)
    omega

/-! ## Dates and days of the calendar -/

theorem epochDay_ofCivil (c : CivilDate) :
    (ofCivil c).epochDay + epochOffset = daysBeforeYear c.year +
      (((monthLengths c.year).take (c.month - 1)).sum + (c.day - 1) : Nat) :=
  Int.sub_add_cancel ..

theorem civil_ofCivil {c : CivilDate} (h : c.isValid = true) : (ofCivil c).civil = c := by
  obtain ⟨year, month, day⟩ := c
  obtain ⟨hmonth, hday, length, hlength, hle⟩ := isValid_iff.mp h
  simp only at hmonth hday hlength hle
  have hrest : day - 1 < length := by omega
  have hlt := sum_take_le (monthLengths year) (month - 1 + 1)
  rw [sum_take_succ hlength] at hlt
  have hsum := sum_monthLengths year
  have hcount := epochDay_ofCivil ⟨year, month, day⟩
  simp only at hcount
  have hyear : yearOf ((ofCivil ⟨year, month, day⟩).epochDay + epochOffset) = year := by
    rw [hcount]
    apply yearOf_eq <;> omega
  have hofYear : ((ofCivil ⟨year, month, day⟩).epochDay + epochOffset -
      daysBeforeYear year).toNat = ((monthLengths year).take (month - 1)).sum + (day - 1) := by
    rw [hcount]
    omega
  unfold civil
  simp only [hyear, hofYear, monthAndDay_eq hlength hrest]
  congr 1 <;> omega

theorem exists_civil (d : Date) : ∃ c : CivilDate, c.isValid = true ∧ ofCivil c = d := by
  have hle := daysBeforeYear_yearOf_le (d.epochDay + epochOffset)
  have hlt := lt_daysBeforeYear_yearOf (d.epochDay + epochOffset)
  generalize yearOf (d.epochDay + epochOffset) = year at hle hlt
  have hsum := sum_monthLengths year
  have hday : (d.epochDay + epochOffset - daysBeforeYear year).toNat <
      (monthLengths year).sum := by omega
  obtain ⟨i, length, rest, hlength, hrest, hofYear⟩ := exists_month hday
  refine ⟨⟨year, i + 1, rest + 1⟩, isValid_iff.mpr ?_, ?_⟩
  · exact ⟨by simp, by simp, length, hlength, hrest⟩
  · have hcount := epochDay_ofCivil ⟨year, i + 1, rest + 1⟩
    simp only [Nat.add_sub_cancel, ← hofYear] at hcount
    obtain ⟨epochDay⟩ := d
    rw [eq_iff_epochDay]
    simp only at hle hcount ⊢
    omega

theorem isValid_civil (d : Date) : d.civil.isValid = true := by
  obtain ⟨c, hc, rfl⟩ := exists_civil d
  rwa [civil_ofCivil hc]

@[simp] theorem ofCivil_civil (d : Date) : ofCivil d.civil = d := by
  obtain ⟨c, hc, rfl⟩ := exists_civil d
  rw [civil_ofCivil hc]

theorem civil_injective : Function.Injective civil :=
  Function.LeftInverse.injective ofCivil_civil

/-- The next day of the calendar is a day of the calendar, and the next date. -/
theorem next_of_isValid {c : CivilDate} (h : c.isValid = true) :
    c.next.isValid = true ∧ (ofCivil c.next).epochDay = (ofCivil c).epochDay + 1 := by
  obtain ⟨year, month, day⟩ := c
  have hmonth := month_le_of_isValid h
  obtain ⟨hfirst, hday, length, hlength, hle⟩ := isValid_iff.mp h
  have hcount := epochDay_ofCivil ⟨year, month, day⟩
  have hcount' := epochDay_ofCivil (next ⟨year, month, day⟩)
  simp only at hmonth hfirst hday hlength hle hcount
  by_cases hlast : day < length
  · have hnext : next ⟨year, month, day⟩ = ⟨year, month, day + 1⟩ := by
      simp [next, hlength, hlast]
    rw [hnext] at hcount' ⊢
    refine ⟨isValid_iff.mpr ⟨hfirst, by simp, length, hlength, hlast⟩, ?_⟩
    simp only at hcount'
    omega
  obtain rfl : day = length := by omega
  have hsum := sum_take_succ hlength
  have hpred : month - 1 + 1 = month := by omega
  rw [hpred] at hsum
  by_cases hyear : month < 12
  · have hnext : next ⟨year, month, day⟩ = ⟨year, month + 1, 1⟩ := by
      simp [next, hlength, hyear]
    obtain ⟨later, hlater⟩ : ∃ later, (monthLengths year)[month]? = some later := by
      apply Option.isSome_iff_exists.mp
      simp [length_monthLengths, hyear]
    have hpos := (bounds_of_mem_monthLengths (List.mem_of_getElem? hlater)).1
    rw [hnext] at hcount' ⊢
    refine ⟨isValid_iff.mpr ⟨by simp, by simp, later, hlater, hpos⟩, ?_⟩
    simp only [Nat.add_sub_cancel] at hcount'
    omega
  · obtain rfl : month = 12 := by omega
    have hnext : next ⟨year, 12, day⟩ = ⟨year + 1, 1, 1⟩ := by
      simp [next, hlength]
    have htotal := sum_monthLengths year
    rw [List.take_of_length_le (Nat.le_of_eq (length_monthLengths year))] at hsum
    rw [hnext] at hcount' ⊢
    refine ⟨isValid_iff.mpr ⟨by simp, by simp, 31, rfl, by simp⟩, ?_⟩
    simp only [Nat.sub_self, List.take_zero, List.sum_nil] at hcount'
    omega

theorem civil_next (d : Date) : (⟨d.epochDay + 1⟩ : Date).civil = d.civil.next := by
  obtain ⟨hvalid, hnext⟩ := next_of_isValid (isValid_civil d)
  rw [ofCivil_civil] at hnext
  have hdate : ofCivil d.civil.next = ⟨d.epochDay + 1⟩ := eq_iff_epochDay.mpr hnext
  rw [← hdate, civil_ofCivil hvalid]

/-! ## Written dates -/

theorem yearText_of_short {year : Int} (h : 0 ≤ year ∧ year ≤ 9999) :
    yearText year = Text.padded 4 year.toNat := by
  simp [yearText, h]

theorem yearText_of_long {year : Int} (h : ¬(0 ≤ year ∧ year ≤ 9999)) :
    yearText year = (if year < 0 then '-' else '+') :: Text.padded 4 year.natAbs := by
  have hlong : (decide (0 ≤ year) && decide (year ≤ 9999)) = false := by simpa using h
  rw [yearText, hlong]
  rfl

theorem yearText_ne_of_short {y z : Int} (hy : 0 ≤ y ∧ y ≤ 9999)
    (hz : ¬(0 ≤ z ∧ z ≤ 9999)) : yearText y ≠ yearText z := by
  intro h
  rw [yearText_of_short hy, yearText_of_long hz] at h
  have hdigit := Text.isDigit_of_mem_padded (h ▸ List.mem_cons_self)
  split at hdigit <;> simp at hdigit

theorem yearText_injective : Function.Injective yearText := by
  intro y z h
  by_cases hy : 0 ≤ y ∧ y ≤ 9999 <;> by_cases hz : 0 ≤ z ∧ z ≤ 9999
  · rw [yearText_of_short hy, yearText_of_short hz] at h
    have hyears := Text.padded_injective 4 h
    omega
  · exact absurd h (yearText_ne_of_short hy hz)
  · exact absurd h.symm (yearText_ne_of_short hz hy)
  · rw [yearText_of_long hy, yearText_of_long hz] at h
    obtain ⟨hsign, hpadded⟩ := List.cons.inj h
    have hyears := Text.padded_injective 4 hpadded
    split at hsign <;> split at hsign
    · omega
    · cases hsign
    · cases hsign
    · omega

/-- Month and day take two digits each, whatever the year takes. -/
theorem text_injective : Function.Injective text := by
  intro d e h
  have htext := congrArg String.toList h
  simp only [text, String.toList_ofList] at htext
  have hlength {n : Nat} (hn : n ≤ 31) : (Text.padded 2 n).length = 2 :=
    Text.length_padded (by omega) (by omega)
  have hmonth (d : Date) : d.civil.month ≤ 31 :=
    Nat.le_trans (month_le_of_isValid d.isValid_civil) (by omega)
  have hday (d : Date) := day_le_of_isValid d.isValid_civil
  rw [List.append_assoc, List.append_assoc] at htext
  obtain ⟨hyear, hrest⟩ := List.append_inj' htext
    (by simp [hlength (hmonth d), hlength (hmonth e), hlength (hday d), hlength (hday e)])
  obtain ⟨-, hrest⟩ := List.cons.inj hrest
  obtain ⟨hmonths, hdays⟩ := List.append_inj hrest
    ((hlength (hmonth d)).trans (hlength (hmonth e)).symm)
  obtain ⟨-, hdays⟩ := List.cons.inj hdays
  apply civil_injective
  have hyear := yearText_injective hyear
  have hmonths := Text.padded_injective 2 hmonths
  have hdays := Text.padded_injective 2 hdays
  cases hd : d.civil
  cases he : e.civil
  simp_all

end Date

end ProgramGuide
