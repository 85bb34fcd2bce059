import ProgramGuide.Calendar.Instant

/-!
# Years and ticks

The year of a day holds that day, so the instants of a span of years lie between its
first and its last day.  Ticks are added up in a signed word, which holds those of some
29,000 years on either side of 1970: within this span they are exact, and beyond it there
are none.
-/

namespace ProgramGuide

namespace Date

open CivilDate

theorem daysBeforeYear_mono {y z : Int} (h : y ≤ z) : daysBeforeYear y ≤ daysBeforeYear z := by
  unfold daysBeforeYear
  omega

theorem daysBeforeYear_yearOf_le (day : Int) : daysBeforeYear (yearOf day) ≤ day := by
  unfold yearOf daysBeforeYear
  simp only
  split
  · omega
  · split <;> omega

theorem lt_daysBeforeYear_yearOf (day : Int) : day < daysBeforeYear (yearOf day + 1) := by
  unfold yearOf daysBeforeYear
  simp only
  split
  · omega
  · split <;> omega

variable {d : Date} {y : Int}

theorem le_of_le_year (h : y ≤ d.year) : daysBeforeYear y ≤ d.epochDay + epochOffset :=
  Int.le_trans (daysBeforeYear_mono h) (daysBeforeYear_yearOf_le _)

theorem lt_of_year_le (h : d.year ≤ y) : d.epochDay + epochOffset < daysBeforeYear (y + 1) := by
  have hyear : d.year + 1 ≤ y + 1 := by omega
  exact Int.lt_of_lt_of_le (lt_daysBeforeYear_yearOf _) (daysBeforeYear_mono hyear)

end Date

namespace Instant

theorem before_eq_false_iff {t u : Instant} :
    t.before u = false ↔
      u.seconds < t.seconds ∨ u.seconds = t.seconds ∧ u.nanos ≤ t.nanos := by
  simp only [before, Bool.or_eq_false_iff, Bool.and_eq_false_iff, decide_eq_false_iff_not,
    beq_eq_false_iff_ne]
  omega

/-- An instant whose date lies in some years.  A second has less than two billion
nanoseconds, a leap second included. -/
structure InYears (first last : Int) (t : Instant) : Prop where
  first_le : first ≤ t.date.year
  le_last : t.date.year ≤ last
  nanos_lt : t.nanos < 2 * billion

variable {t : Instant} {first last : Int}

theorem InYears.mono {first' last' : Int} (h : t.InYears first last) (hfirst : first' ≤ first)
    (hlast : last ≤ last') : t.InYears first' last' where
  first_le := Int.le_trans hfirst h.first_le
  le_last := Int.le_trans h.le_last hlast
  nanos_lt := h.nanos_lt

/-! ## Ticks -/

/-- Units of 100 ns since 0001-01-01T00:00:00, in a word without an end. -/
def units (t : Instant) : Int :=
  621355968000000000 + t.seconds * 10000000 + (t.nanos / 100 : Nat)

/-- Nothing that is added up for the ticks leaves the word. -/
structure Counted (t : Instant) : Prop where
  product : FitsWord (t.seconds * 10000000)
  sum : FitsWord (621355968000000000 + t.seconds * 10000000)
  total : FitsWord t.units

/-- From -27258-04-19T21:11:55 to +29228-09-14T02:48:05.4775807. -/
structure Spanned (t : Instant) : Prop where
  first_le : -922337203685 ≤ t.seconds
  le_last : t.seconds * 10000000 + (t.nanos / 100 : Nat) ≤ 8602016068854775807

instance (t : Instant) : Decidable t.Spanned :=
  decidable_of_iff
    (-922337203685 ≤ t.seconds ∧
      t.seconds * 10000000 + (t.nanos / 100 : Nat) ≤ 8602016068854775807)
    ⟨fun h => ⟨h.1, h.2⟩, fun h => ⟨h.first_le, h.le_last⟩⟩

theorem counted_iff : t.Counted ↔ t.Spanned := by
  constructor
  · rintro ⟨hproduct, -, htotal⟩
    unfold FitsWord units at *
    constructor <;> omega
  · rintro ⟨hfirst, hlast⟩
    constructor <;> unfold FitsWord
    · omega
    · omega
    · unfold units
      omega

theorem word?_eq_some_iff {n m : Int} : word? n = some m ↔ FitsWord n ∧ n = m := by
  simp [word?]

theorem ticks?_eq_some_iff {n : Int} : t.ticks? = some n ↔ t.Spanned ∧ t.units = n := by
  rw [← counted_iff]
  simp only [ticks?, Option.bind_eq_bind, Option.bind_eq_some_iff, word?_eq_some_iff]
  constructor
  · rintro ⟨_, ⟨hproduct, rfl⟩, _, ⟨hsum, rfl⟩, htotal, hn⟩
    exact ⟨⟨hproduct, hsum, htotal⟩, hn⟩
  · rintro ⟨⟨hproduct, hsum, htotal⟩, hn⟩
    exact ⟨_, ⟨hproduct, rfl⟩, _, ⟨hsum, rfl⟩, htotal, hn⟩

theorem ticks?_of_spanned (h : t.Spanned) : t.ticks? = some t.units :=
  ticks?_eq_some_iff.mpr ⟨h, rfl⟩

theorem ticks?_eq_none_iff : t.ticks? = none ↔ ¬t.Spanned := by
  simp [Option.eq_none_iff_forall_ne_some, ticks?_eq_some_iff]

theorem spanned_of_inYears (h : t.InYears (-27257) 29227) : t.Spanned := by
  have hfirst : -10674943 ≤ t.seconds / 86400 := by
    have hle := Date.le_of_le_year h.first_le
    have hdays : CivilDate.daysBeforeYear (-27257) = -9955781 := by decide
    simp only [date, Date.epochOffset] at hle
    omega
  have hlast : t.seconds / 86400 < 9955780 := by
    have hlt := Date.lt_of_year_le h.le_last
    have hdays : CivilDate.daysBeforeYear (29227 + 1) = 10674942 := by decide
    simp only [date, Date.epochOffset] at hlt
    omega
  have hnanos := h.nanos_lt
  unfold billion at hnanos
  constructor <;> omega

theorem le_units_of_inYears (h : t.InYears 1900 last) : 100000000000000000 ≤ t.units := by
  have hle := Date.le_of_le_year h.first_le
  have hdays : CivilDate.daysBeforeYear 1900 = 693595 := by decide
  simp only [date, Date.epochOffset] at hle
  unfold units
  omega

end Instant

end ProgramGuide
