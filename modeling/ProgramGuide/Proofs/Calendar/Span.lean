import ProgramGuide.Calendar.Span
import ProgramGuide.Proofs.Text.Numeral

/-!
# Spans as text

A span is written as a sum of amounts, from years down to nanoseconds.  Read back, each
amount adds what it is worth, and no sum on the way is too large when the last one is not.
-/

namespace ProgramGuide.Span

open Text

structure Fits (s : Span) : Prop where
  seconds_lt : s.seconds < wordLimit
  nanos_lt : s.nanos < billion

def length (s : Span) : Nat := s.seconds * billion + s.nanos

def ofLength (n : Nat) : Span := ⟨n / billion, n % billion⟩

theorem length_ofLength (n : Nat) : (ofLength n).length = n := Nat.div_add_mod' n billion

theorem ofLength_length {s : Span} (h : s.nanos < billion) : ofLength s.length = s := by
  obtain ⟨seconds, nanos⟩ := s
  simp only [ofLength, length, billion, mk.injEq] at h ⊢
  omega

theorem nanos_ofLength_lt (n : Nat) : (ofLength n).nanos < billion :=
  Nat.mod_lt n (by decide)

theorem Fits.length_lt {s : Span} (h : s.Fits) : s.length < wordLimit * billion := by
  have hseconds := h.seconds_lt
  have hnanos := h.nanos_lt
  simp only [length, billion] at *
  omega

theorem word_of_lt {n : Nat} (h : n < wordLimit) : word n = .ok n := if_pos h

theorem word_of_le {n : Nat} (h : wordLimit ≤ n) : word n = .error .outOfRange :=
  if_neg (Nat.not_lt.mpr h)

/-! ## Numbers -/

section Numbers

variable (total : Span) (offset since : Nat) (isFirst : Bool) {n : Nat} {cs : List Char}

theorem le_foldl_digits (n : Nat) (cs : List Char) :
    n ≤ cs.foldl (fun n c => 10 * n + digitValue c) n := by
  induction cs generalizing n with
  | nil => exact Nat.le_refl n
  | cons c cs ih =>
      have hle := ih (10 * n + digitValue c)
      rw [List.foldl_cons]
      omega

/-- Digits make one number, which must fit. -/
theorem readFrom_digits (hn : n < wordLimit) (hcs : ∀ c ∈ cs, c.isDigit = true)
    (rest : List Char) :
    ∃ offset', readFrom (.digits n) total offset (cs ++ rest) =
      (word (cs.foldl (fun n c => 10 * n + digitValue c) n)).bind fun m =>
        readFrom (.digits m) total offset' rest := by
  induction cs generalizing n offset with
  | nil =>
      refine ⟨offset, ?_⟩
      rw [List.foldl_nil, word_of_lt hn]
      rfl
  | cons c cs ih =>
      rw [List.forall_mem_cons] at hcs
      rw [List.cons_append, readFrom, List.foldl_cons]
      simp only [hcs.1, if_true]
      by_cases hfits : 10 * n + digitValue c < wordLimit
      · rw [word_of_lt hfits]
        exact ih _ hfits hcs.2
      · have hle := le_foldl_digits (10 * n + digitValue c) cs
        refine ⟨offset, ?_⟩
        rw [word_of_le (by omega), word_of_le (by omega)]
        rfl

theorem readFrom_natural (n : Nat) (rest : List Char) :
    ∃ offset', readFrom (.amount since isFirst) total offset ((natural n).toList ++ rest) =
      (word n).bind fun m => readFrom (.digits m) total offset' rest := by
  have hvalue := ofDigits_natural n
  have hdigits : ∀ c ∈ (natural n).toList, c.isDigit = true := fun _ => isDigit_of_mem_natural
  cases hnatural : (natural n).toList with
  | nil => exact absurd hnatural (natural_ne_nil n)
  | cons c cs =>
      rw [hnatural] at hvalue hdigits
      rw [List.forall_mem_cons] at hdigits
      have hfirst : digitValue c < wordLimit :=
        Nat.lt_of_lt_of_le (digitValue_lt hdigits.1) (by decide)
      have hvalue' : cs.foldl (fun n c => 10 * n + digitValue c) (digitValue c) = n := by
        rw [← hvalue, ofDigits, List.foldl_cons, Nat.mul_zero, Nat.zero_add]
      rw [List.cons_append, readFrom, ← hvalue']
      simp only [hdigits.1, if_true]
      exact readFrom_digits total _ hfirst hdigits.2 rest

end Numbers

/-! ## Amounts -/

/-- What the reader takes for part of a unit's name, and for nothing else. -/
def isOnlyLetter (c : Char) : Bool := isUnitLetter c && !c.isDigit && !isBlank c

theorem isOnlyLetter_iff {c : Char} :
    isOnlyLetter c = true ↔ isUnitLetter c = true ∧ c.isDigit = false ∧ isBlank c = false := by
  simp only [isOnlyLetter, Bool.and_eq_true, Bool.not_eq_true', and_assoc]

/-- A name that a unit is known by. -/
structure UnitName where
  text : String
  unit : TimeUnit
  ne_nil : text.toList ≠ [] := by decide +kernel
  letters : text.toList.all isOnlyLetter = true := by decide +kernel
  known : TimeUnit.ofName? text.toList = some unit := by decide +kernel

namespace UnitName

def years : UnitName := .mk "years" .year
def year : UnitName := .mk "year" .year
def months : UnitName := .mk "months" .month
def month : UnitName := .mk "month" .month
def days : UnitName := .mk "days" .day
def day : UnitName := .mk "day" .day
def hours : UnitName := .mk "h" .hour
def minutes : UnitName := .mk "m" .minute
def seconds : UnitName := .mk "s" .second
def milliseconds : UnitName := .mk "ms" .millisecond
def microseconds : UnitName := .mk "us" .microsecond
def nanoseconds : UnitName := .mk "ns" .nanosecond

end UnitName

def TimeUnit.length (unit : TimeUnit) : Nat :=
  if unit.measure.1 then unit.measure.2 else unit.measure.2 * billion

theorem TimeUnit.length_second : TimeUnit.length .second = billion := Nat.one_mul billion

theorem TimeUnit.measure_pos (unit : TimeUnit) : 0 < unit.measure.2 := by
  cases unit <;> decide

structure Amount where
  count : Nat
  name : UnitName

namespace Amount

def text (a : Amount) : String := Text.natural a.count ++ a.name.text

def length (a : Amount) : Nat := a.count * a.name.unit.length

/-- Of a unit below the second there is less than a second. -/
def Reduced (a : Amount) : Prop := a.name.unit.measure.1 = true → a.length < billion

theorem count_lt {a : Amount} (ha : a.Reduced) (h : a.length < wordLimit * billion) :
    a.count * a.name.unit.measure.2 < wordLimit := by
  unfold Reduced at ha
  unfold length TimeUnit.length at ha h
  cases hunit : a.name.unit.measure.1 with
  | true =>
      rw [hunit] at ha
      exact Nat.lt_trans (ha rfl) (by decide)
  | false =>
      rw [hunit, if_neg Bool.false_ne_true, ← Nat.mul_assoc] at h
      exact Nat.lt_of_mul_lt_mul_right h

end Amount

section Sum

variable {total : Span}

theorem plus_eq (seconds nanos : Nat) (hnanos : total.nanos + nanos < wordLimit)
    (hfits : total.length + (seconds * billion + nanos) < wordLimit * billion) :
    total.plus seconds nanos = .ok (ofLength (total.length + (seconds * billion + nanos))) := by
  have hseconds : total.seconds + seconds + (total.nanos + nanos) / billion < wordLimit := by
    simp only [length, billion] at hfits ⊢
    omega
  rw [plus, word_of_lt hnanos]
  change (word _).bind _ = _
  rw [word_of_lt hseconds]
  simp only [Except.bind, pure, Except.pure, ofLength, length, billion, Except.ok.injEq,
    mk.injEq]
  omega

theorem addAmount_name (n : Nat) (name : UnitName) :
    total.addAmount n none name.text.toList =
      (word (n * name.unit.measure.2)).bind fun n =>
        total.plusMeasured (name.unit.measure.1, n) := by
  have hname : name.text.toList.isEmpty = false := by
    rw [List.isEmpty_eq_false_iff]
    exact name.ne_nil
  simp only [addAmount, hname, name.known, if_neg Bool.false_ne_true]
  refine congrArg (Except.bind _) (funext fun n => ?_)
  exact bind_pure _

theorem addAmount_eq {a : Amount} (htotal : total.nanos < billion) (ha : a.Reduced)
    (hfits : total.length + a.length < wordLimit * billion) :
    total.addAmount a.count none a.name.text.toList = .ok (ofLength (total.length + a.length)) := by
  have hcount := a.count_lt ha (Nat.lt_of_le_of_lt (Nat.le_add_left _ _) hfits)
  have hlimit : 2 * billion ≤ wordLimit := by decide
  rw [addAmount_name, word_of_lt hcount]
  change total.plusMeasured (a.name.unit.measure.1, a.count * a.name.unit.measure.2) = _
  unfold Amount.Reduced at ha
  unfold Amount.length TimeUnit.length at ha hfits ⊢
  cases hunit : a.name.unit.measure.1 with
  | true =>
      rw [hunit] at ha hfits
      have hnanos : total.nanos + a.count * a.name.unit.measure.2 < wordLimit := by
        have h := ha rfl
        simp only [if_true] at h
        omega
      have heq := plus_eq 0 _ hnanos (by simpa using hfits)
      rw [Nat.zero_mul, Nat.zero_add] at heq
      exact heq
  | false =>
      rw [hunit] at hfits
      have hnanos : total.nanos + 0 < wordLimit := by omega
      have heq := plus_eq (a.count * a.name.unit.measure.2) 0 hnanos
        (by simpa [Nat.mul_assoc] using hfits)
      rw [Nat.add_zero, Nat.mul_assoc] at heq
      exact heq

end Sum

/-! ## Sums of amounts -/

section Sums

variable (total : Span) (offset since : Nat) (isFirst : Bool)

theorem readFrom_letters (n : Nat) {cs : List Char} (hcs : cs.all isOnlyLetter = true)
    (name rest : List Char) :
    ∃ offset', readFrom (.unit n none name) total offset (cs ++ rest) =
      readFrom (.unit n none (cs.reverse ++ name)) total offset' rest := by
  induction cs generalizing name offset with
  | nil => exact ⟨offset, rfl⟩
  | cons c cs ih =>
      rw [List.all_cons, Bool.and_eq_true, isOnlyLetter_iff] at hcs
      obtain ⟨⟨hletter, hdigit, hblank⟩, hcs⟩ := hcs
      obtain ⟨offset', h⟩ := ih (offset + c.utf8Size) hcs (c :: name)
      refine ⟨offset', ?_⟩
      rw [List.cons_append, readFrom]
      simp only [hletter, hdigit, hblank, if_true, if_neg Bool.false_ne_true]
      rw [h, List.reverse_cons, List.append_assoc, List.singleton_append]

theorem readFrom_text {a : Amount} (ha : a.count < wordLimit) (rest : List Char) :
    ∃ offset', readFrom (.amount since isFirst) total offset (a.text.toList ++ rest) =
      readFrom (.unit a.count none a.name.text.toList.reverse) total offset' rest := by
  obtain ⟨offset', hnumber⟩ := readFrom_natural total offset since isFirst a.count
    (a.name.text.toList ++ rest)
  have hletters := a.name.letters
  cases hname : a.name.text.toList with
  | nil => exact absurd hname a.name.ne_nil
  | cons c cs =>
      rw [hname, List.all_cons, Bool.and_eq_true, isOnlyLetter_iff] at hletters
      obtain ⟨⟨hletter, hdigit, hblank⟩, hcs⟩ := hletters
      obtain ⟨offset'', h⟩ := readFrom_letters total (offset' + c.utf8Size) a.count
        hcs [c] rest
      refine ⟨offset'', ?_⟩
      rw [Amount.text, String.toList_append, List.append_assoc, hnumber, word_of_lt ha, hname]
      change readFrom (.digits a.count) total offset' (c :: (cs ++ rest)) = _
      rw [readFrom]
      simp only [hletter, hdigit, hblank, if_true, if_neg Bool.false_ne_true]
      rw [h, List.reverse_cons]

/-- Each amount is added to the ones before it; if all of them fit, so do the first. -/
theorem readFrom_amounts {as : List Amount} (has : as ≠ []) (hreduced : ∀ a ∈ as, a.Reduced)
    (htotal : total.nanos < billion)
    (hfits : total.length + (as.map Amount.length).sum < wordLimit * billion) :
    readFrom (.amount since isFirst) total offset
        ([' '].intercalate (as.map (·.text.toList))) =
      .ok (ofLength (total.length + (as.map Amount.length).sum)) := by
  induction as generalizing total offset since isFirst with
  | nil => exact absurd rfl has
  | cons a as ih =>
      rw [List.forall_mem_cons] at hreduced
      rw [List.map_cons, List.sum_cons] at hfits
      have hsum : total.length + a.length < wordLimit * billion := by omega
      have hlength : a.length < wordLimit * billion := by omega
      have hcount := Nat.lt_of_le_of_lt
        (Nat.le_mul_of_pos_right a.count a.name.unit.measure_pos) (a.count_lt hreduced.1 hlength)
      have hadd := addAmount_eq htotal hreduced.1 hsum
      cases as with
      | nil =>
          obtain ⟨mark, h⟩ := readFrom_text total offset since isFirst hcount []
          rw [List.append_nil] at h
          simp only [List.map_cons, List.map_nil, List.intercalate_singleton, List.sum_cons,
            List.sum_nil, Nat.add_zero]
          rw [h, readFrom]
          simp only [List.reverse_reverse]
          exact hadd
      | cons b bs =>
          have hsplit : [' '].intercalate ((a :: b :: bs).map (·.text.toList)) =
              a.text.toList ++ ' ' :: [' '].intercalate ((b :: bs).map (·.text.toList)) := by
            rw [List.map_cons, List.map_cons, List.intercalate_cons_cons, List.append_assoc,
              List.singleton_append]
          obtain ⟨mark, h⟩ := readFrom_text total offset since isFirst hcount
            (' ' :: [' '].intercalate ((b :: bs).map (·.text.toList)))
          rw [hsplit, h, readFrom]
          simp only [List.reverse_reverse, hadd]
          have hrest := ih (ofLength (total.length + a.length)) (mark + ' '.utf8Size)
            (mark + ' '.utf8Size) false (List.cons_ne_nil b bs) hreduced.2 (nanos_ofLength_lt _)
            (by rwa [length_ofLength, Nat.add_assoc])
          rw [length_ofLength, Nat.add_assoc, ← List.sum_cons, ← List.map_cons] at hrest
          exact hrest

end Sums

/-! ## Written spans -/

def Amount.ofCounts (years months days hours minutes seconds millis micros nanos : Nat) :
    List Amount :=
  [⟨years, if 1 < years then .years else .year⟩,
   ⟨months, if 1 < months then .months else .month⟩,
   ⟨days, if 1 < days then .days else .day⟩,
   ⟨hours, .hours⟩, ⟨minutes, .minutes⟩, ⟨seconds, .seconds⟩,
   ⟨millis, .milliseconds⟩, ⟨micros, .microseconds⟩, ⟨nanos, .nanoseconds⟩]

def amounts (s : Span) : List Amount :=
  let inYear := s.seconds % 31557600
  let inMonth := inYear % 2630016
  let inDay := inMonth % 86400
  Amount.ofCounts (s.seconds / 31557600) (inYear / 2630016) (inMonth / 86400) (inDay / 3600)
    (inDay % 3600 / 60) (inDay % 60) (s.nanos / 1000000) (s.nanos / 1000 % 1000)
    (s.nanos % 1000)

def written (as : List Amount) : List Amount := as.filter (·.count != 0)

theorem written_cons (a : Amount) (as : List Amount) :
    written (a :: as) = (if a.count == 0 then [] else [a]) ++ written as := by
  unfold written
  cases hcount : a.count == 0 with
  | true => rw [List.filter_cons_of_neg (by simp_all)]; rfl
  | false => rw [List.filter_cons_of_pos (by simp_all)]; rfl

theorem sum_length_cons (a : Amount) (as : List Amount) :
    ((a :: as).map Amount.length).sum = a.length + (as.map Amount.length).sum := by
  rw [List.map_cons, List.sum_cons]

theorem sum_length_written (as : List Amount) :
    ((written as).map Amount.length).sum = (as.map Amount.length).sum := by
  induction as with
  | nil => rfl
  | cons a as ih =>
      rw [written_cons, List.map_append, List.sum_append, ih, sum_length_cons]
      cases hcount : a.count == 0 with
      | true => rw [Amount.length, beq_iff_eq.mp hcount, Nat.zero_mul]; rfl
      | false => rfl

theorem counted_eq (n : Nat) (one many : UnitName) (h : many.text = one.text ++ "s") :
    counted n one.text =
      (if n == 0 then [] else [(⟨n, if 1 < n then many else one⟩ : Amount)]).map Amount.text := by
  unfold counted
  by_cases hone : 1 < n
  · have hzero : (n == 0) = false := beq_eq_false_iff_ne.mpr (by omega)
    rw [hzero, if_pos hone, if_pos hone, String.append_assoc, ← h]
    rfl
  · rw [if_neg hone, if_neg hone, String.append_empty, apply_ite (List.map Amount.text)]
    rfl

theorem measured_eq (n : Nat) (name : UnitName) :
    measured n name.text =
      (if n == 0 then [] else [(⟨n, name⟩ : Amount)]).map Amount.text := by
  rw [measured, apply_ite (List.map Amount.text)]
  rfl

theorem parts_eq (s : Span) : s.parts = (written s.amounts).map Amount.text := by
  simp only [amounts, Amount.ofCounts, written_cons, List.map_append]
  rw [← counted_eq _ .year .years rfl, ← counted_eq _ .month .months rfl,
    ← counted_eq _ .day .days rfl, ← measured_eq _ .hours, ← measured_eq _ .minutes,
    ← measured_eq _ .seconds, ← measured_eq _ .milliseconds, ← measured_eq _ .microseconds,
    ← measured_eq _ .nanoseconds]
  change _ = _ ++ (_ ++ (_ ++ (_ ++ (_ ++ (_ ++ (_ ++ (_ ++ (_ ++ []))))))))
  simp only [parts, List.append_assoc, List.append_nil]
  rfl

theorem unit_ite (one many : UnitName) (h : many.unit = one.unit) (p : Prop) [Decidable p] :
    (if p then many else one).unit = one.unit := by
  rw [apply_ite UnitName.unit, h, ite_self]

section Counts

variable (years months days hours minutes seconds millis micros nanos : Nat)

theorem sum_length_ofCounts :
    ((Amount.ofCounts years months days hours minutes seconds millis micros nanos).map
        Amount.length).sum =
      (years * 31557600 + months * 2630016 + days * 86400 + hours * 3600 + minutes * 60 +
        seconds) * billion + (millis * 1000000 + micros * 1000 + nanos) := by
  simp only [Amount.ofCounts, sum_length_cons, List.map_nil, List.sum_nil,
    Amount.length, unit_ite .year .years rfl,
    unit_ite .month .months rfl, unit_ite .day .days rfl]
  simp only [UnitName.year, UnitName.month, UnitName.day,
    UnitName.hours, UnitName.minutes, UnitName.seconds, UnitName.milliseconds,
    UnitName.microseconds, UnitName.nanoseconds, TimeUnit.length, TimeUnit.measure, billion,
    Bool.false_eq_true, if_true, if_false]
  omega

theorem reduced_of_mem_ofCounts (hmillis : millis < 1000) (hmicros : micros < 1000)
    (hnanos : nanos < 1000) :
    ∀ a ∈ Amount.ofCounts years months days hours minutes seconds millis micros nanos,
      a.Reduced := by
  simp only [Amount.ofCounts, List.forall_mem_cons, Amount.Reduced, Amount.length,
    unit_ite .year .years rfl, unit_ite .month .months rfl,
    unit_ite .day .days rfl]
  refine ⟨nofun, nofun, nofun, nofun, nofun, nofun, fun _ => ?_, fun _ => ?_, fun _ => ?_, nofun⟩
  · change millis * 1000000 < 1000000000
    omega
  · change micros * 1000 < 1000000000
    omega
  · change nanos * 1 < 1000000000
    omega

end Counts

theorem sum_length_amounts (s : Span) : (s.amounts.map Amount.length).sum = s.length := by
  rw [amounts, sum_length_ofCounts]
  simp only [length, billion]
  omega

theorem reduced_of_mem_amounts {s : Span} (h : s.nanos < billion) :
    ∀ a ∈ s.amounts, a.Reduced := by
  have hnanos : s.nanos < 1000000000 := h
  apply reduced_of_mem_ofCounts <;> omega

/-- Only the number zero needs no unit. -/
theorem read_eq_readFrom {text : String}
    (h : readFrom (.amount 0 true) zero 0 text.toList ≠ .error (.unitNeeded 0)) :
    read text = readFrom (.amount 0 true) zero 0 text.toList := by
  have hne : (text == "0") = false := by
    rw [beq_eq_false_iff_ne]
    rintro rfl
    exact h rfl
  rw [read, hne]
  rfl

theorem read_amounts {text : String} {as : List Amount} (has : as ≠ [])
    (htext : text.toList = [' '].intercalate (as.map (·.text.toList)))
    (hreduced : ∀ a ∈ as, a.Reduced)
    (hfits : (as.map Amount.length).sum < wordLimit * billion) :
    read text = .ok (ofLength (as.map Amount.length).sum) := by
  have hread : readFrom (.amount 0 true) zero 0 text.toList =
      .ok (ofLength (zero.length + (as.map Amount.length).sum)) := by
    rw [htext]
    refine readFrom_amounts zero 0 0 true has hreduced (by decide) ?_
    rwa [show zero.length = 0 from rfl, Nat.zero_add]
  rw [read_eq_readFrom (by rw [hread]; nofun), hread, show zero.length = 0 from rfl, Nat.zero_add]

/-- What is written is read back, up to the largest count of seconds. -/
theorem read_text {s : Span} (h : s.Fits) : read s.text = .ok s := by
  have hsum : ((written s.amounts).map Amount.length).sum = s.length := by
    rw [sum_length_written, sum_length_amounts]
  rw [text]
  cases hzero : s.isZero with
  | true =>
      obtain ⟨seconds, nanos⟩ := s
      simp only [isZero, Bool.and_eq_true, beq_iff_eq] at hzero
      obtain ⟨rfl, rfl⟩ := hzero
      decide +kernel
  | false =>
      have hne : written s.amounts ≠ [] := by
        intro hnil
        have hlength : s.length = 0 := by rw [← hsum, hnil]; rfl
        simp only [isZero, Bool.and_eq_false_iff, beq_eq_false_iff_ne] at hzero
        simp only [length, billion] at hlength
        omega
      have htext : (String.intercalate " " s.parts).toList =
          [' '].intercalate ((written s.amounts).map (·.text.toList)) := by
        rw [String.toList_intercalate, parts_eq, List.map_map]
        rfl
      have hreduced : ∀ a ∈ written s.amounts, a.Reduced := fun a ha =>
        reduced_of_mem_amounts h.nanos_lt a (List.mem_of_mem_filter ha)
      rw [if_neg Bool.false_ne_true,
        read_amounts hne htext hreduced (by rw [hsum]; exact h.length_lt), hsum,
        ofLength_length h.nanos_lt]

theorem read_seconds (n : Nat) :
    read (natural n ++ "s") = (word n).map ofSeconds := by
  by_cases hn : n < wordLimit
  · let amount : Amount := ⟨n, .seconds⟩
    have hsum : ([amount].map Amount.length).sum = n * billion := by
      rw [sum_length_cons, List.map_nil, List.sum_nil, Nat.add_zero]
      exact congrArg (n * ·) TimeUnit.length_second
    have hread : read amount.text = .ok (ofLength ([amount].map Amount.length).sum) :=
      read_amounts (List.cons_ne_nil amount []) List.intercalate_singleton.symm
        (List.forall_mem_singleton.mpr nofun) (by
          rw [hsum]
          exact Nat.mul_lt_mul_of_pos_right hn (by decide))
    change read amount.text = _
    rw [hread, hsum, word_of_lt hn, ofLength, Nat.mul_mod_left, Nat.mul_div_cancel n (by decide)]
    rfl
  · obtain ⟨offset', hnumber⟩ := readFrom_natural zero 0 0 true n "s".toList
    have hread : readFrom (.amount 0 true) zero 0 (natural n ++ "s").toList =
        .error .outOfRange := by
      rw [String.toList_append, hnumber, word_of_le (Nat.le_of_not_lt hn)]
      rfl
    rw [read_eq_readFrom (by rw [hread]; nofun), hread, word_of_le (Nat.le_of_not_lt hn)]
    rfl

example : (Span.mk (wordLimit - 1) 999999999).text =
    "584542046090years 7months 15days 17h 5m 3s 999ms 999us 999ns" := by decide +kernel

end ProgramGuide.Span
