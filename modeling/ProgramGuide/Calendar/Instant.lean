import ProgramGuide.Calendar.Date

/-!
# Instants

An instant is a count of seconds since 1970-01-01T00:00:00Z and the nanoseconds into
its second.  A leap second belongs to the second before it: its nanoseconds run from
one to two billion.
-/

namespace ProgramGuide

structure Instant where
  seconds : Int
  nanos : Nat
  deriving DecidableEq, Repr

namespace Instant

def billion : Nat := 1000000000

def isLeap (t : Instant) : Bool := billion ≤ t.nanos

def before (a b : Instant) : Bool :=
  a.seconds < b.seconds || (a.seconds == b.seconds && a.nanos < b.nanos)

def date (t : Instant) : Date := ⟨t.seconds / 86400⟩

def secondOfDay (t : Instant) : Int := t.seconds % 86400

def inRange (t : Instant) : Bool := t.date.inRange

def milliseconds (t : Instant) : Int := t.seconds * 1000 + (t.nanos / 1000000 : Nat)

def FitsWord (n : Int) : Prop := -9223372036854775808 ≤ n ∧ n < 9223372036854775808

instance (n : Int) : Decidable (FitsWord n) :=
  inferInstanceAs (Decidable (-9223372036854775808 ≤ n ∧ n < 9223372036854775808))

def word? (n : Int) : Option Int := if FitsWord n then some n else none

/-- Units of 100 ns since 0001-01-01T00:00:00.  There are none when a step of the sum
leaves the word, some 29,000 years away. -/
def ticks? (t : Instant) : Option Int := do
  let product ← word? (t.seconds * 10000000)
  let sum ← word? (621355968000000000 + product)
  word? (sum + (t.nanos / 100 : Nat))

private def carry (seconds : Int) (nanos : Nat) : Instant :=
  if billion ≤ nanos then ⟨seconds + 1, nanos - billion⟩ else ⟨seconds, nanos⟩

/-- The instant a number of seconds and of nanoseconds (below one billion) later.  A
leap second is left as a second of its own; within it only nanoseconds move. -/
def shift (t : Instant) (seconds : Int) (nanos : Nat) : Instant :=
  if t.isLeap then
    if 0 < seconds || (0 < nanos && 2 * billion ≤ t.nanos + nanos) then
      carry (t.seconds + seconds) (t.nanos - billion + nanos)
    else if seconds < 0 then
      carry (t.seconds + 1 + seconds) (t.nanos - billion + nanos)
    else ⟨t.seconds, t.nanos + nanos⟩
  else carry (t.seconds + seconds) (t.nanos + nanos)

def later? (t : Instant) (seconds : Int) (nanos : Nat) : Option Instant :=
  let shifted := t.shift seconds nanos
  if shifted.inRange then some shifted else none

private theorem carry_not_before {t : Instant} {seconds : Int} {nanos : Nat}
    (h : t.seconds < seconds ∨ t.seconds = seconds ∧ (t.nanos ≤ nanos ∨ billion ≤ nanos)) :
    (carry seconds nanos).before t = false := by
  unfold carry before
  split <;> simp only [Bool.or_eq_false_iff, Bool.and_eq_false_imp, decide_eq_false_iff_not,
    beq_iff_eq] <;> omega

theorem shift_not_before (t : Instant) {seconds : Int} (h : 0 ≤ seconds) (nanos : Nat) :
    (t.shift seconds nanos).before t = false := by
  unfold shift
  split
  next hleap =>
    rw [isLeap, decide_eq_true_eq] at hleap
    split
    next hpast =>
      simp only [Bool.or_eq_true, Bool.and_eq_true, decide_eq_true_eq] at hpast
      apply carry_not_before
      omega
    next =>
      rw [if_neg (by omega)]
      simp [before]
  next => exact carry_not_before (by omega)

theorem shift_whole {t : Instant} (ht : t.nanos < 2 * billion) {seconds : Int}
    (h : 0 ≤ seconds) :
    t.shift seconds 0 =
      if seconds = 0 then t else ⟨t.seconds + seconds, t.nanos % billion⟩ := by
  unfold shift
  by_cases hzero : seconds = 0
  · subst hzero
    split
    next => simp
    next hleap =>
      rw [isLeap, decide_eq_true_eq] at hleap
      rw [carry, if_neg (by omega)]
      simp
  · have hpos : 0 < seconds := by omega
    rw [if_neg hzero]
    split
    next hleap =>
      rw [isLeap, decide_eq_true_eq] at hleap
      rw [if_pos (by simp [hpos]), carry, if_neg (by omega), Nat.mod_eq_sub_mod hleap,
        Nat.mod_eq_of_lt (by omega), Nat.add_zero]
    next hleap =>
      rw [isLeap, decide_eq_true_eq] at hleap
      rw [carry, if_neg (by omega), Nat.mod_eq_of_lt (by omega), Nat.add_zero]

theorem later?_not_before {t later : Instant} {seconds : Int} {nanos : Nat}
    (h : 0 ≤ seconds) (hlater : t.later? seconds nanos = some later) :
    later.before t = false := by
  unfold later? at hlater
  rw [Option.ite_none_right_eq_some] at hlater
  cases hlater.2
  exact t.shift_not_before h nanos

/-- Nanoseconds from `b` to `a`.  A leap second between the two times of day counts
as a second. -/
def since (a b : Instant) : Int :=
  let leap : Int :=
    if b.secondOfDay < a.secondOfDay then if b.isLeap then 1 else 0
    else if a.secondOfDay < b.secondOfDay then if a.isLeap then -1 else 0
    else 0
  (a.seconds - b.seconds + leap) * (billion : Int) + ((a.nanos : Int) - (b.nanos : Int))

end Instant

end ProgramGuide
