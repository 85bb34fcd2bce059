import ProgramGuide.Calendar.Timestamp
import ProgramGuide.Proofs.Calendar.Date
import ProgramGuide.Proofs.Text.Numeral

/-!
# Dates and instants that can be read

A date of a year from 0 to 9999 is read as it is written, whatever follows it.  Fractions
are cut after nine digits, so an instant that is read has less than two billion
nanoseconds, a leap second included, and lies between the first and the last date.
-/

namespace ProgramGuide

namespace Timestamp

theorem spanDigits_spec (width : Nat) (cs : List Char) :
    (spanDigits width cs).1.length ≤ width ∧
      ∀ c ∈ (spanDigits width cs).1, c.isDigit = true := by
  induction width generalizing cs with
  | zero => simp [spanDigits]
  | succ width ih =>
      cases cs with
      | nil => simp [spanDigits]
      | cons c cs =>
          unfold spanDigits
          split
          next hc =>
            exact ⟨Nat.succ_le_succ (ih cs).1, List.forall_mem_cons.mpr ⟨hc, (ih cs).2⟩⟩
          next => simp

theorem fraction?_lt {cs rest : List Char} {nanos : Nat}
    (h : fraction? cs = some (nanos, rest)) : nanos < Instant.billion := by
  unfold fraction? at h
  split at h
  next tail =>
    split at h
    next => cases h
    next digits rest' _ hspan =>
      cases h
      have hspec := spanDigits_spec 9 tail
      rw [hspan] at hspec
      obtain ⟨hlength, hdigits⟩ := hspec
      have hscale : 10 ^ digits.length * 10 ^ (9 - digits.length) = Instant.billion := by
        rw [← Nat.pow_add, Nat.add_sub_cancel' hlength]
        rfl
      rw [← hscale]
      exact Nat.mul_lt_mul_of_pos_right (Text.ofDigits_lt hdigits) (Nat.pow_pos (by omega))
  next =>
    obtain ⟨rfl, -⟩ : 0 = nanos ∧ _ := by simpa using h
    decide

theorem timeOfDay?_lt {cs rest : List Char} {second nanos : Nat}
    (h : timeOfDay? cs = some ((second, nanos), rest)) : nanos < 2 * Instant.billion := by
  simp only [timeOfDay?, Option.bind_eq_bind, Option.bind_eq_some_iff] at h
  obtain ⟨hour, -, marked, -, minute, -, marked', -, second', -, fraction, hfraction, h⟩ := h
  have hnanos := fraction?_lt hfraction
  split at h
  next => cases h
  next =>
    split at h
    next =>
      cases h
      omega
    next =>
      cases h
      omega

/-! ## Written dates -/

theorem spanDigits_append {digits : List Char} (h : ∀ c ∈ digits, c.isDigit = true)
    (rest : List Char) : spanDigits digits.length (digits ++ rest) = (digits, rest) := by
  induction digits with
  | nil => simp [spanDigits]
  | cons c digits ih =>
      rw [List.forall_mem_cons] at h
      simp [spanDigits, h.1, ih h.2]

section Digits

variable {digits : List Char} (hne : digits ≠ []) (h : ∀ c ∈ digits, c.isDigit = true)

include hne h

theorem trimStart_digits (rest : List Char) :
    Text.trimStart (digits ++ rest) = digits ++ rest := by
  cases digits with
  | nil => exact absurd rfl hne
  | cons c digits =>
      apply List.dropWhile_cons_of_neg
      intro hblank
      have hdigit := h c List.mem_cons_self
      rw [Text.isDigit_of_isBlank hblank] at hdigit
      cases hdigit

theorem number?_digits (rest : List Char) :
    number? digits.length (digits ++ rest) = some (Text.ofDigits digits, rest) := by
  rw [number?, trimStart_digits hne h, spanDigits_append h]
  cases digits with
  | nil => exact absurd rfl hne
  | cons c digits => rfl

/-- Digits are no sign, so a year of four digits ends behind them. -/
theorem year?_digits (hlength : digits.length = 4) (rest : List Char) :
    year? (digits ++ rest) = some ((Text.ofDigits digits : Int), rest) := by
  have hnumber := number?_digits hne h rest
  have hsign {c : Char} {behind : List Char} (hc : c.isDigit = false) :
      digits ++ rest ≠ c :: behind := by
    cases digits with
    | nil => exact absurd rfl hne
    | cons d digits =>
        have hd := h d List.mem_cons_self
        grind
  rw [hlength] at hnumber
  unfold year?
  rw [trimStart_digits hne h]
  split
  next hminus => exact absurd hminus (hsign rfl)
  next hplus => exact absurd hplus (hsign rfl)
  next => rw [hnumber]; rfl

end Digits

section Padded

variable {width n : Nat} (hwidth : 0 < width) (hn : n < 10 ^ width)

include hwidth hn

theorem padded_ne_nil : Text.padded width n ≠ [] := by
  rw [← List.length_pos_iff, Text.length_padded hwidth hn]
  exact hwidth

theorem number?_padded (rest : List Char) :
    number? width (Text.padded width n ++ rest) = some (n, rest) := by
  have hread := number?_digits (padded_ne_nil hwidth hn)
    (fun _ => Text.isDigit_of_mem_padded) rest
  rwa [Text.length_padded hwidth hn, Text.ofDigits_padded] at hread

end Padded

theorem year?_padded {n : Nat} (hn : n < 10 ^ 4) (rest : List Char) :
    year? (Text.padded 4 n ++ rest) = some ((n : Int), rest) := by
  have hread := year?_digits (padded_ne_nil (by omega) hn)
    (fun _ => Text.isDigit_of_mem_padded) (Text.length_padded (by omega) hn) rest
  rwa [Text.ofDigits_padded] at hread

section Written

variable {d : Date} (h : 0 ≤ d.year ∧ d.year ≤ 9999)

include h

theorem text_of_short : d.text.toList = Text.padded 4 d.civil.year.toNat ++
    ('-' :: Text.padded 2 d.civil.month ++ '-' :: Text.padded 2 d.civil.day) := by
  have hyear : Date.yearText d.civil.year = Text.padded 4 d.civil.year.toNat :=
    Date.yearText_of_short h
  rw [Date.text, String.toList_ofList, hyear, List.append_assoc]

theorem civil_of_short : d.civil.year.toNat < 10 ^ 4 ∧ d.civil.month < 10 ^ 2 ∧
    d.civil.day < 10 ^ 2 := by
  have hyear : d.civil.year ≤ 9999 := h.2
  have hmonth := CivilDate.month_le_of_isValid d.isValid_civil
  have hday := CivilDate.day_le_of_isValid d.isValid_civil
  omega

theorem length_text : d.text.toList.length = 10 := by
  obtain ⟨hyear, hmonth, hday⟩ := civil_of_short h
  simp [text_of_short h, Text.length_padded (by omega) hyear,
    Text.length_padded (by omega) hmonth, Text.length_padded (by omega) hday]

theorem isDigit_of_mem_text {c : Char} (hc : c ∈ d.text.toList) :
    c.isDigit = true ∨ c = '-' := by
  rw [text_of_short h] at hc
  simp only [List.mem_append, List.mem_cons] at hc
  have hpadded {width n : Nat} (hmem : c ∈ Text.padded width n) : c.isDigit = true :=
    Text.isDigit_of_mem_padded hmem
  grind

theorem date?_text (rest : List Char) :
    date? false (d.text.toList ++ rest) = some (d.civil, rest) := by
  obtain ⟨hyear, hmonth, hday⟩ := civil_of_short h
  have hnonneg : (d.civil.year.toNat : Int) = d.civil.year := Int.toNat_of_nonneg h.1
  simp [text_of_short h, date?, mark?, year?_padded hyear, number?_padded (by omega) hmonth,
    number?_padded (by omega) hday, hnonneg]

end Written

end Timestamp

/-- An instant of the calendar, within a leap second perhaps. -/
structure Instant.Real (t : Instant) : Prop where
  inRange : t.inRange = true
  nanos_lt : t.nanos < 2 * billion

theorem Instant.real_of_read? {s : String} {t : Instant} (h : read? s = some t) : t.Real := by
  simp only [read?, Timestamp.instant?, Option.bind_eq_bind, Option.bind_eq_some_iff] at h
  obtain ⟨civil, -, date, -, h⟩ := h
  -- The mark before the time may be written in three ways.
  split at h
  case h_4 => cases h
  all_goals
    simp only [Option.bind_eq_some_iff, Option.some.injEq] at h
    obtain ⟨behind, -, ⟨⟨second, nanos⟩, rest⟩, htime, offset, -, h⟩ := h
    rw [Option.ite_none_right_eq_some, Bool.and_eq_true] at h
    obtain ⟨⟨-, hrange⟩, heq⟩ := h
    cases heq
    exact ⟨hrange, Timestamp.timeOfDay?_lt htime⟩

theorem Date.ofCivil?_civil {d : Date} (h : 0 ≤ d.year ∧ d.year ≤ 9999) :
    ofCivil? d.civil = some d := by
  have hyear : d.civil.year = d.year := rfl
  have hrange : -262143 ≤ d.year ∧ d.year ≤ 262142 := by omega
  simp [ofCivil?, d.isValid_civil, hyear, hrange]

/-- A date is read as it was written, and nothing is read where more follows. -/
theorem Date.read?_text {d : Date} (h : 0 ≤ d.year ∧ d.year ≤ 9999) (rest : List Char) :
    read? (d.text.toList ++ rest) = if rest = [] then some d else none := by
  rw [read?, Timestamp.date?_text h]
  cases rest with
  | nil => exact ofCivil?_civil h
  | cons c rest => rfl

end ProgramGuide
