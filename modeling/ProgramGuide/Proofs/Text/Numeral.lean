import Mathlib.Algebra.GroupWithZero.Nat
import Mathlib.Data.List.Basic
import Mathlib.Data.List.Induction
import ProgramGuide.Proofs.Text.Blank
import ProgramGuide.Text.Numeral

/-!
# Numerals

A numeral holds digits and perhaps a sign, and different numbers have different
numerals.
-/

namespace ProgramGuide.Text

theorem isDigit_of_mem_natural {n : Nat} {c : Char} (h : c ∈ (natural n).toList) :
    c.isDigit = true := by
  rw [natural, String.toList_ofList] at h
  exact Nat.isDigit_of_mem_toDigits (by omega) (by omega) h

theorem natural_injective : Function.Injective natural := by
  intro m n h
  have hdigits : Nat.toDigits 10 m = Nat.toDigits 10 n := by
    simpa [natural] using congrArg String.toList h
  have hread := congrArg (Nat.ofDigitChars 10 · 0) hdigits
  simpa using hread

theorem lt_length_natural {k n : Nat} (hk : 0 < k) (h : Nat.pow 10 k ≤ n) :
    k < (natural n).toList.length := by
  rw [natural, String.toList_ofList]
  by_contra hshort
  have hlt := (Nat.length_toDigits_le_iff (by omega) hk).mp (Nat.le_of_not_lt hshort)
  exact absurd h (Nat.not_le_of_lt hlt)

theorem integer_of_nonneg {n : Int} (h : 0 ≤ n) : integer n = natural n.natAbs := by
  unfold integer
  rw [if_neg (by omega)]

theorem integer_of_neg {n : Int} (h : n < 0) : integer n = "-" ++ natural n.natAbs := by
  unfold integer
  rw [if_pos h]

theorem isDigit_of_mem_integer {n : Int} {c : Char} (h : c ∈ (integer n).toList) :
    c = '-' ∨ c.isDigit = true := by
  by_cases hn : 0 ≤ n
  · rw [integer_of_nonneg hn] at h
    exact .inr (isDigit_of_mem_natural h)
  · rw [integer_of_neg (by omega), String.toList_append, List.mem_append] at h
    cases h with
    | inl hsign => exact .inl (by simpa using hsign)
    | inr hdigit => exact .inr (isDigit_of_mem_natural hdigit)

private theorem sign_not_mem_natural (n : Nat) : '-' ∉ (natural n).toList := by
  intro h
  exact absurd (isDigit_of_mem_natural h) (by decide)

theorem integer_injective : Function.Injective integer := by
  intro m n h
  have hsign {a b : Int} (ha : 0 ≤ a) (hb : b < 0) : integer a ≠ integer b := by
    intro heq
    rw [integer_of_nonneg ha, integer_of_neg hb] at heq
    apply sign_not_mem_natural a.natAbs
    simp [heq]
  by_cases hm : 0 ≤ m <;> by_cases hn : 0 ≤ n
  · rw [integer_of_nonneg hm, integer_of_nonneg hn] at h
    have habs := natural_injective h
    omega
  · exact absurd h (hsign hm (by omega))
  · exact absurd h.symm (hsign hn (by omega))
  · rw [integer_of_neg (by omega), integer_of_neg (by omega)] at h
    have habs := natural_injective (String.append_right_inj _ |>.mp h)
    omega

theorem ofDigits_padded (width n : Nat) : ofDigits (padded width n) = n := by
  change Nat.ofDigitChars 10 (padded width n) 0 = n
  simp [padded, Nat.ofDigitChars_append, Nat.ofDigitChars_replicate_zero]

theorem padded_injective (width : Nat) : Function.Injective (padded width) :=
  Function.LeftInverse.injective (ofDigits_padded width)

theorem length_padded {width n : Nat} (hwidth : 0 < width) (h : n < 10 ^ width) :
    (padded width n).length = width := by
  have hdigits := (Nat.length_toDigits_le_iff (b := 10) (by omega) hwidth).mpr h
  simp [padded]
  omega

theorem isDigit_of_mem_padded {width n : Nat} {c : Char} (h : c ∈ padded width n) :
    c.isDigit = true := by
  rw [padded, List.mem_append] at h
  cases h with
  | inl hzero =>
      rw [List.eq_of_mem_replicate hzero]
      decide
  | inr hdigit => exact Nat.isDigit_of_mem_toDigits (by omega) (by omega) hdigit

/-! ## Reading digits -/

theorem digitValue_lt {c : Char} (h : c.isDigit = true) : digitValue c < 10 := by
  obtain ⟨-, hlast⟩ := Char.isDigit_iff_toNat.mp h
  have hzero : '0'.toNat = 48 := rfl
  have hnine : '9'.toNat = 57 := rfl
  unfold digitValue
  omega

theorem ofDigits_concat (cs : List Char) (c : Char) :
    ofDigits (cs ++ [c]) = 10 * ofDigits cs + digitValue c := by
  simp [ofDigits]

theorem ofDigits_lt {cs : List Char} (h : ∀ c ∈ cs, c.isDigit = true) :
    ofDigits cs < 10 ^ cs.length := by
  induction cs using List.reverseRecOn with
  | nil => decide
  | append_singleton cs c ih =>
      rw [List.forall_mem_append, List.forall_mem_singleton] at h
      have hvalue := digitValue_lt h.2
      have hrest := ih h.1
      rw [ofDigits_concat, List.length_append, List.length_singleton, Nat.pow_succ]
      omega

theorem natural?_of_digits {cs : List Char} (hne : cs ≠ []) (h : ∀ c ∈ cs, c.isDigit = true) :
    natural? cs = some (ofDigits cs) := by
  have hall : cs.all Char.isDigit = true := List.all_eq_true.mpr h
  simp [natural?, hne, hall]

theorem integer?_of_digits {cs : List Char} (hne : cs ≠ []) (h : ∀ c ∈ cs, c.isDigit = true) :
    integer? cs = some (ofDigits cs : Int) := by
  have hsign {c : Char} {rest : List Char} (hc : c.isDigit = false) : cs ≠ c :: rest := by
    rintro rfl
    rw [h c List.mem_cons_self] at hc
    cases hc
  unfold integer?
  split
  next => exact absurd rfl (hsign rfl)
  next => exact absurd rfl (hsign rfl)
  next =>
    rw [natural?_of_digits hne h]
    rfl

theorem integer?_of_minus {cs : List Char} (hne : cs ≠ []) (h : ∀ c ∈ cs, c.isDigit = true) :
    integer? ('-' :: cs) = some (-(ofDigits cs : Int)) := by
  rw [integer?, natural?_of_digits hne h]
  rfl

theorem ofDigits_natural (n : Nat) : ofDigits (natural n).toList = n := by
  rw [natural, String.toList_ofList]
  exact Nat.ofDigitChars_toDigits (by omega) (by omega)

theorem natural_ne_nil (n : Nat) : (natural n).toList ≠ [] := by
  rw [natural, String.toList_ofList]
  exact Nat.toDigits_ne_nil

/-- A number is read back as it was written. -/
theorem integer?_integer (n : Int) : integer? (integer n).toList = some n := by
  by_cases hn : 0 ≤ n
  · rw [integer_of_nonneg hn, integer?_of_digits (natural_ne_nil _) fun _ => isDigit_of_mem_natural,
      ofDigits_natural]
    congr 1
    omega
  · rw [integer_of_neg (by omega), String.toList_append]
    change integer? ('-' :: (natural n.natAbs).toList) = some n
    rw [integer?_of_minus (natural_ne_nil _) fun _ => isDigit_of_mem_natural, ofDigits_natural]
    congr 1
    omega

/-- Nothing but digits behind a sign is a number. -/
theorem integer?_eq_none {cs : List Char} {c : Char} (hc : c ∈ cs) (hdigit : c.isDigit = false)
    (hminus : c ≠ '-') (hplus : c ≠ '+') : integer? cs = none := by
  have hnatural {cs : List Char} (hc : c ∈ cs) : natural? cs = none := by
    have hall : cs.all Char.isDigit = false := List.all_eq_false.mpr ⟨c, hc, by simp [hdigit]⟩
    simp [natural?, hall]
  unfold integer?
  split
  next cs =>
    rw [hnatural ((List.mem_cons.mp hc).resolve_left hminus)]
    rfl
  next cs =>
    rw [hnatural ((List.mem_cons.mp hc).resolve_left hplus)]
    rfl
  next =>
    rw [hnatural hc]
    rfl

/-- Digits with a sign in front of them or none, and their number. -/
inductive SpellsInteger : List Char → Int → Prop
  | plain {digits} (hne : digits ≠ []) (hdigits : ∀ c ∈ digits, c.isDigit = true) :
      SpellsInteger digits (Nat.ofDigitChars 10 digits 0 : Nat)
  | plus {digits} (hne : digits ≠ []) (hdigits : ∀ c ∈ digits, c.isDigit = true) :
      SpellsInteger ('+' :: digits) (Nat.ofDigitChars 10 digits 0 : Nat)
  | minus {digits} (hne : digits ≠ []) (hdigits : ∀ c ∈ digits, c.isDigit = true) :
      SpellsInteger ('-' :: digits) (-(Nat.ofDigitChars 10 digits 0 : Nat))

theorem natural?_eq_some_iff {cs : List Char} {n : Nat} : natural? cs = some n ↔
    cs ≠ [] ∧ (∀ c ∈ cs, c.isDigit = true) ∧ Nat.ofDigitChars 10 cs 0 = n := by
  have hvalue : ofDigits cs = Nat.ofDigitChars 10 cs 0 := rfl
  simp [natural?, hvalue, and_assoc]

theorem integer?_eq_some_iff {cs : List Char} {n : Int} :
    integer? cs = some n ↔ SpellsInteger cs n := by
  constructor
  · intro h
    unfold integer? at h
    split at h
    all_goals
      obtain ⟨_, hcast, rfl⟩ := Option.map_eq_some_iff.mp h
      obtain ⟨m, hm, hvalue⟩ := Option.bind_eq_some_iff.mp hcast
      cases hvalue
      obtain ⟨hne, hdigits, rfl⟩ := natural?_eq_some_iff.mp hm
    next => exact .minus hne hdigits
    next => exact .plus hne hdigits
    next => exact .plain hne hdigits
  · intro h
    cases h with
    | plain hne hdigits => exact integer?_of_digits hne hdigits
    | plus hne hdigits =>
        rw [integer?, natural?_of_digits hne hdigits]
        rfl
    | minus hne hdigits => exact integer?_of_minus hne hdigits

theorem signed?_eq_some_iff {bits : Nat} {cs : List Char} {n : Int} :
    signed? bits cs = some n ↔
      SpellsInteger cs n ∧ -Int.pow 2 (bits - 1) ≤ n ∧ n < Int.pow 2 (bits - 1) := by
  simp [signed?, Option.filter_eq_some_iff, integer?_eq_some_iff]

theorem isDigit_of_isBlank {c : Char} (h : isBlank c = true) : c.isDigit = false := by
  rw [← Bool.not_eq_true, Char.isDigit_iff_toNat]
  have hzero : '0'.toNat = 48 := rfl
  have hnine : '9'.toNat = 57 := rfl
  simp only [isBlank, Bool.or_eq_true, Bool.and_eq_true, decide_eq_true_eq, beq_iff_eq] at h
  omega

theorem trimChars_of_integer? {cs : List Char} {n : Int} (h : integer? cs = some n) :
    trimChars cs = cs := by
  apply trimChars_of_not_blank
  intro c hc
  by_contra hblank
  rw [Bool.not_eq_false] at hblank
  have hsign {d : Char} (hd : isBlank d = false) : c ≠ d := by
    rintro rfl
    rw [hblank] at hd
    cases hd
  rw [integer?_eq_none hc (isDigit_of_isBlank hblank) (hsign rfl) (hsign rfl)] at h
  cases h

end ProgramGuide.Text
