import Mathlib.Algebra.Group.Int.Defs
import Mathlib.Data.List.TakeWhile
import ProgramGuide.Proofs.Json.Writer
import ProgramGuide.Proofs.Number.Binary64
import ProgramGuide.Proofs.Text.Numeral

/-!
# Number literals

The grammar of number literals, and what the reader makes of them.  A whole number is an
integer as long as it fits in a word of 64 bits; beyond that, with a fraction or with an
exponent it is a double, and so is the negative zero.
-/

namespace ProgramGuide.Json

namespace Number

/-! ## The grammar -/

/-- One digit at least, and nothing else. -/
structure Digits (cs : List Char) : Prop where
  ne_nil : cs ≠ []
  isDigit : ∀ c ∈ cs, c.isDigit = true

/-- Digits with no zero in front of others. -/
structure Whole (cs : List Char) : Prop extends Digits cs where
  zero : cs.head? = some '0' → cs.length = 1

inductive SpellsFraction : List Char → Option (List Char) → Prop
  | none : SpellsFraction [] none
  | some {digits} (h : Digits digits) : SpellsFraction ('.' :: digits) (some digits)

inductive SpellsExponent : List Char → Option Int → Prop
  | none : SpellsExponent [] none
  | plain {mark digits} (hmark : mark = 'e' ∨ mark = 'E') (h : Digits digits) :
      SpellsExponent (mark :: digits) (some (Text.ofDigits digits))
  | plus {mark digits} (hmark : mark = 'e' ∨ mark = 'E') (h : Digits digits) :
      SpellsExponent (mark :: '+' :: digits) (some (Text.ofDigits digits))
  | minus {mark digits} (hmark : mark = 'e' ∨ mark = 'E') (h : Digits digits) :
      SpellsExponent (mark :: '-' :: digits) (some (-(Text.ofDigits digits : Int)))

def sign (negative : Bool) : List Char := if negative then ['-'] else []

/-- The text of a number literal: sign, whole digits, fraction and exponent. -/
inductive Spells : List Char → Literal → Prop
  | literal {negative whole behind fraction tail exponent} (hwhole : Whole whole)
      (hfraction : SpellsFraction behind fraction) (hexponent : SpellsExponent tail exponent) :
      Spells (sign negative ++ (whole ++ (behind ++ tail))) ⟨negative, whole, fraction, exponent⟩

/-- A literal that is no whole number shows it by a point or by the mark of an exponent. -/
theorem mark_mem_of_spells {cs : List Char} {l : Literal} (h : Spells cs l)
    (hpartial : l.fraction ≠ none ∨ l.exponent ≠ none) :
    ∃ c ∈ cs, c = '.' ∨ c = 'e' ∨ c = 'E' := by
  obtain ⟨hwhole, hfraction, hexponent⟩ := h
  cases hfraction with
  | some _ => exact ⟨'.', by simp, .inl rfl⟩
  | none =>
      cases hexponent with
      | none => simp at hpartial
      | plain hmark _ | plus hmark _ | minus hmark _ => exact ⟨_, by simp, .inr hmark⟩

/-! ## Scanning -/

theorem digits?_append {digits rest : List Char} (h : Digits digits)
    (hrest : ∀ c ∈ rest.head?, c.isDigit = false) :
    digits? (digits ++ rest) = some (digits, rest) := by
  have htake : (digits ++ rest).takeWhile Char.isDigit = digits := by
    rw [List.takeWhile_append_of_pos h.isDigit]
    cases rest with
    | nil => simp
    | cons c rest => simp [List.takeWhile_cons_of_neg, hrest c rfl]
  have hdrop : (digits ++ rest).dropWhile Char.isDigit = rest := by
    rw [List.dropWhile_append_of_pos h.isDigit]
    cases rest with
    | nil => rfl
    | cons c rest => simp [List.dropWhile_cons_of_neg, hrest c rfl]
  simp [digits?, htake, hdrop, h.ne_nil]

theorem digits?_self {digits : List Char} (h : Digits digits) :
    digits? digits = some (digits, []) := by
  have happend := @digits?_append digits [] h (by simp)
  rwa [List.append_nil] at happend

theorem Digits.exists_cons {cs : List Char} (h : Digits cs) :
    ∃ c rest, cs = c :: rest ∧ c.isDigit = true := by
  obtain ⟨c, rest, rfl⟩ := List.exists_cons_of_ne_nil h.ne_nil
  exact ⟨c, rest, rfl, h.isDigit c List.mem_cons_self⟩

theorem SpellsExponent.head {tail : List Char} {exponent : Option Int}
    (h : SpellsExponent tail exponent) : ∀ c ∈ tail.head?, c = 'e' ∨ c = 'E' := by
  cases h with
  | none => simp
  | plain hmark | plus hmark | minus hmark => simpa using hmark

theorem SpellsExponent.not_digit {tail : List Char} {exponent : Option Int}
    (h : SpellsExponent tail exponent) : ∀ c ∈ tail.head?, c.isDigit = false := by
  intro c hc
  rcases h.head c hc with rfl | rfl <;> rfl

theorem exponent?_of_spells {tail : List Char} {exponent : Option Int}
    (h : SpellsExponent tail exponent) : exponent? tail = some (exponent, []) := by
  have hplain {digits : List Char} (h : Digits digits) :
      signedExponent? digits = some ((Text.ofDigits digits : Int), []) := by
    obtain ⟨c, rest, rfl, hc⟩ := h.exists_cons
    unfold signedExponent?
    split
    next heq =>
      cases heq
      cases hc
    next heq =>
      cases heq
      cases hc
    next => rw [digits?_self h, Option.map_some]
  cases h with
  | none => rfl
  | plain hmark h =>
      rcases hmark with rfl | rfl <;> rw [exponent?, hplain h, Option.map_some]
  | plus hmark h | minus hmark h =>
      rcases hmark with rfl | rfl <;>
        rw [exponent?, signedExponent?, digits?_self h, Option.map_some, Option.map_some]

theorem fraction?_of_spells {behind tail : List Char} {fraction : Option (List Char)}
    {exponent : Option Int} (h : SpellsFraction behind fraction)
    (htail : SpellsExponent tail exponent) :
    fraction? (behind ++ tail) = some (fraction, tail) := by
  cases h with
  | none =>
      unfold fraction?
      split
      next heq =>
        rw [List.nil_append] at heq
        subst heq
        exact absurd (htail.head '.' rfl) (by decide)
      next => rfl
  | some h =>
      rw [List.cons_append, fraction?, digits?_append h htail.not_digit, Option.map_some]

theorem whole?_of_spells {whole behind tail : List Char} {fraction : Option (List Char)}
    {exponent : Option Int} (h : Whole whole) (hbehind : SpellsFraction behind fraction)
    (htail : SpellsExponent tail exponent) :
    whole? (whole ++ (behind ++ tail)) = some (whole, behind ++ tail) := by
  have hrest : ∀ c ∈ (behind ++ tail).head?, c.isDigit = false := by
    cases hbehind with
    | none => exact htail.not_digit
    | some _ =>
        intro c hc
        obtain rfl : '.' = c := by simpa using hc
        rfl
  have hzero : whole.head? ≠ some '0' ∨ whole.length = 1 := by
    by_cases hhead : whole.head? = some '0'
    · exact .inr (h.zero hhead)
    · exact .inl hhead
  rw [whole?, digits?_append h.toDigits hrest, Option.filter_some, if_pos]
  simpa using hzero

theorem splitMinus_sign (negative : Bool) {whole rest : List Char} (h : Digits whole) :
    splitMinus (sign negative ++ (whole ++ rest)) = (negative, whole ++ rest) := by
  cases negative with
  | true => rfl
  | false =>
      obtain ⟨c, cs, rfl, hc⟩ := h.exists_cons
      rw [sign, if_neg (by simp), List.nil_append, List.cons_append]
      unfold splitMinus
      split
      next heq =>
        cases heq
        cases hc
      next => rfl

theorem scan?_of_spells {cs : List Char} {l : Literal} (h : Spells cs l) :
    Literal.scan? cs = some (l, []) := by
  obtain ⟨hwhole, hfraction, hexponent⟩ := h
  simp only [Literal.scan?, splitMinus_sign _ hwhole.toDigits,
    whole?_of_spells hwhole hfraction hexponent, fraction?_of_spells hfraction hexponent,
    exponent?_of_spells hexponent, Option.bind_eq_bind, Option.bind_some]
  rfl

/-! ## Reading -/

theorem isNumberCharacter_of_digits {cs : List Char} (h : Digits cs) :
    ∀ c ∈ cs, isNumberCharacter c = true := by
  intro c hc
  simp [isNumberCharacter, h.isDigit c hc]

theorem isNumberCharacter_of_spells {cs : List Char} {l : Literal} (h : Spells cs l) :
    ∀ c ∈ cs, isNumberCharacter c = true := by
  obtain @⟨negative, whole, behind, fraction, tail, exponent, hwhole, hfraction, hexponent⟩ := h
  have hsign : ∀ c ∈ sign negative, isNumberCharacter c = true := by
    cases negative <;> simp [sign, isNumberCharacter]
  have hbehind : ∀ c ∈ behind, isNumberCharacter c = true := by
    cases hfraction with
    | none => simp
    | some h => exact List.forall_mem_cons.mpr ⟨rfl, isNumberCharacter_of_digits h⟩
  have htail : ∀ c ∈ tail, isNumberCharacter c = true := by
    have hmark {mark : Char} (h : mark = 'e' ∨ mark = 'E') : isNumberCharacter mark = true := by
      rcases h with rfl | rfl <;> rfl
    cases hexponent with
    | none => simp
    | plain he h =>
        exact List.forall_mem_cons.mpr ⟨hmark he, isNumberCharacter_of_digits h⟩
    | plus he h | minus he h =>
        exact List.forall_mem_cons.mpr
          ⟨hmark he, List.forall_mem_cons.mpr ⟨rfl, isNumberCharacter_of_digits h⟩⟩
  simp only [List.forall_mem_append]
  exact ⟨hsign, isNumberCharacter_of_digits hwhole.toDigits, hbehind, htail⟩

theorem Spells.exists_cons {cs : List Char} {l : Literal} (h : Spells cs l) :
    ∃ c rest, cs = c :: rest ∧ (c = '-' ∨ c.isDigit = true) := by
  obtain @⟨negative, whole, behind, fraction, tail, exponent, hwhole, -, -⟩ := h
  cases negative with
  | true => exact ⟨'-', _, rfl, .inl rfl⟩
  | false =>
      obtain ⟨c, rest, rfl, hc⟩ := hwhole.exists_cons
      exact ⟨c, _, rfl, .inr hc⟩

theorem isAlpha_of_isDigit {c : Char} (h : c.isDigit = true) : c.isAlpha = false := by
  obtain ⟨hfirst, hlast⟩ := Char.isDigit_iff_toNat.mp h
  have hnine : '9'.toNat = 57 := rfl
  change (decide (c.val ≥ 'A'.val ∧ c.val ≤ 'Z'.val) ||
    decide (c.val ≥ 'a'.val) && decide (c.val ≤ 'z'.val)) = false
  simp only [Bool.or_eq_false_iff, Bool.and_eq_false_iff, decide_eq_false_iff_not, ge_iff_le,
    UInt32.le_iff_toNat_le]
  have hvalue : c.val.toNat = c.toNat := rfl
  have hupper : 'A'.val.toNat = 65 := rfl
  have hlower : 'a'.val.toNat = 97 := rfl
  omega

theorem token?_of_start {c : Char} (hc : c = '-' ∨ c.isDigit = true) (cs : List Char) :
    token? c cs = (Literal.scan? (c :: cs.takeWhile isNumberCharacter)).map
      fun p => (.number (ofLiteral? p.1),
        (c :: cs.takeWhile isNumberCharacter).length - p.2.length) := by
  have halpha : c.isAlpha = false := by
    rcases hc with rfl | hc
    · rfl
    · exact isAlpha_of_isDigit hc
  unfold token?
  split
  case h_8 => simp [halpha, hc]
  all_goals exact absurd hc (by decide)

theorem tokens_of_spells {cs : List Char} {l : Literal} (h : Spells cs l) :
    tokens cs = [.number (ofLiteral? l)] := by
  have hscan := scan?_of_spells h
  have hall := isNumberCharacter_of_spells h
  obtain ⟨c, rest, rfl, hc⟩ := h.exists_cons
  have hrun : rest.takeWhile isNumberCharacter = rest :=
    List.takeWhile_eq_self_iff.mpr fun d hd => hall d (List.mem_cons_of_mem c hd)
  have hspace : isSpace c = false := by
    rcases hc with rfl | hc
    · rfl
    · by_contra hspace
      simp only [isSpace, Bool.or_eq_true, beq_iff_eq, Bool.not_eq_false] at hspace
      rcases hspace with ((rfl | rfl) | rfl) | rfl <;> cases hc
  have htoken : token? c rest = some (.number (ofLiteral? l), rest.length + 1) := by
    rw [token?_of_start hc, hrun, hscan]
    rfl
  have hpassed := reversedTokens_passing [.number (ofLiteral? l)] rest []
  rw [List.append_nil] at hpassed
  rw [tokens, reversedTokens, if_neg (by simp [hspace]), htoken]
  change (reversedTokens rest.length [.number (ofLiteral? l)] rest).reverse = _
  rw [hpassed]
  rfl

theorem read?_of_spells {cs : List Char} {l : Literal} (h : Spells cs l) :
    read? (String.ofList cs) =
      some (match ofLiteral? l with | some n => .number n | none => .unreadable) := by
  rw [read?, readAsFar, String.toList_ofList, tokens_of_spells h]
  cases ofLiteral? l <;> rfl

theorem ofLiteral?_of_read? {cs : List Char} {l : Literal} {number : Number} (h : Spells cs l)
    (hread : read? (String.ofList cs) = some (.number number)) : ofLiteral? l = some number := by
  rw [read?_of_spells h] at hread
  cases hvalue : ofLiteral? l <;> simp_all

/-! ## Values -/

/-- The value of the whole digits, with the sign. -/
def Literal.wholeValue (l : Literal) : Int :=
  if l.negative then -(Text.ofDigits l.whole : Int) else Text.ofDigits l.whole

theorem mul_pow_le_ofDigitChars (word : Nat) (digits : List Char) :
    word * 10 ^ digits.length ≤ Nat.ofDigitChars 10 digits word := by
  induction digits generalizing word with
  | nil => simp
  | cons c digits ih =>
      rw [Nat.ofDigitChars_cons, List.length_cons, Nat.pow_succ]
      calc word * (10 ^ digits.length * 10) = 10 * word * 10 ^ digits.length := by ac_rfl
        _ ≤ (10 * word + (c.toNat - '0'.toNat)) * 10 ^ digits.length :=
          Nat.mul_le_mul_right _ (Nat.le_add_right _ _)
        _ ≤ _ := ih _

theorem le_ofDigitChars (word : Nat) (digits : List Char) :
    word ≤ Nat.ofDigitChars 10 digits word :=
  Nat.le_trans (Nat.le_mul_of_pos_right word (Nat.pow_pos (by decide)))
    (mul_pow_le_ofDigitChars word digits)

theorem wholeDigits_of_fits {word : Nat} {digits : List Char}
    (h : Nat.ofDigitChars 10 digits word < 2 ^ 64) :
    wholeDigits word digits = ⟨Nat.ofDigitChars 10 digits word, 0⟩ := by
  induction digits generalizing word with
  | nil => rfl
  | cons c digits ih =>
      rw [Nat.ofDigitChars_cons] at h ⊢
      have hfits : fitsWord (10 * word + Text.digitValue c) = true := by
        have hle := le_ofDigitChars (10 * word + (c.toNat - '0'.toNat)) digits
        exact decide_eq_true (Nat.lt_of_le_of_lt hle h)
      rw [wholeDigits, if_pos hfits]
      exact ih h

theorem exponent_wholeDigits {word : Nat} {digits : List Char} (hword : word < 2 ^ 64)
    (h : 2 ^ 64 ≤ Nat.ofDigitChars 10 digits word) : (wholeDigits word digits).exponent ≠ 0 := by
  induction digits generalizing word with
  | nil => exact absurd h (Nat.not_le_of_lt hword)
  | cons c digits ih =>
      rw [Nat.ofDigitChars_cons] at h
      by_cases hfits : fitsWord (10 * word + Text.digitValue c) = true
      · rw [wholeDigits, if_pos hfits]
        exact ih (of_decide_eq_true hfits) h
      · rw [wholeDigits, if_neg hfits]
        simp only [List.length_cons]
        omega

theorem exists_real_of_signed {negative : Bool} {s : Scaled} {number : Number}
    (h : ofLiteral?.signed negative s = some number) : ∃ x, number = .real x := by
  obtain ⟨x, -, rfl⟩ := Option.map_eq_some_iff.mp h
  exact ⟨_, rfl⟩

/-- A whole number is an integer of its value, or a double when that is zero or beyond the
signed words. -/
theorem ofLiteral?_whole {negative : Bool} {whole : List Char} {number : Number}
    (h : ofLiteral? ⟨negative, whole, none, none⟩ = some number) :
    let value := Literal.wholeValue ⟨negative, whole, none, none⟩
    number = .integer value ∨
      (∃ x, number = .real x) ∧ (value = 0 ∨ ¬(-2 ^ 63 ≤ value ∧ value < 2 ^ 63)) := by
  have hpow : Nat.pow 2 63 = 2 ^ 63 := rfl
  have hvalue : Nat.ofDigitChars 10 whole 0 = Text.ofDigits whole := rfl
  dsimp only [Literal.wholeValue]
  simp only [ofLiteral?] at h
  by_cases hfits : Nat.ofDigitChars 10 whole 0 < 2 ^ 64
  · rw [wholeDigits_of_fits hfits, hvalue] at h
    cases negative with
    | false =>
        left
        simpa [eq_comm] using h
    | true =>
        simp only [beq_self_eq_true, if_true, Bool.not_true, Bool.false_eq_true, if_false,
          Bool.or_eq_true, beq_iff_eq, decide_eq_true_eq, hpow] at h ⊢
        split at h
        next hbeyond =>
          right
          exact ⟨⟨_, (Option.some.inj h).symm⟩, by omega⟩
        next =>
          left
          exact (Option.some.inj h).symm
  · rw [Nat.not_lt] at hfits
    rw [if_neg (by simpa using exponent_wholeDigits (by omega) hfits)] at h
    rw [hvalue] at hfits
    refine .inr ⟨exists_real_of_signed h, ?_⟩
    split <;> omega

theorem ofLiteral?_partial {l : Literal} {number : Number}
    (hpartial : l.fraction ≠ none ∨ l.exponent ≠ none) (h : ofLiteral? l = some number) :
    ∃ x, number = .real x := by
  unfold ofLiteral? at h
  simp only at h
  split at h
  next hfraction hexponent => simp [hfraction, hexponent] at hpartial
  next => exact exists_real_of_signed h

theorem integer?_of_spells {cs whole : List Char} {negative : Bool}
    (h : Spells cs ⟨negative, whole, none, none⟩) :
    Text.integer? cs = some (Literal.wholeValue ⟨negative, whole, none, none⟩) := by
  cases h with
  | literal hwhole hfraction hexponent =>
      cases hfraction
      cases hexponent
      rw [List.append_nil, List.append_nil]
      cases negative with
      | true => exact Text.integer?_of_minus hwhole.ne_nil hwhole.isDigit
      | false => exact Text.integer?_of_digits hwhole.ne_nil hwhole.isDigit

/-! ## Numbers within the doubles -/

/-- The word and the power of ten stand for no more than the digits. -/
theorem wholeDigits_le (word : Nat) (digits : List Char) :
    ∃ n e : Nat, wholeDigits word digits = ⟨n, e⟩ ∧ e ≤ digits.length ∧
      n * 10 ^ e ≤ Nat.ofDigitChars 10 digits word := by
  induction digits generalizing word with
  | nil => exact ⟨word, 0, rfl, Nat.le_refl 0, by simp⟩
  | cons c digits ih =>
      by_cases hfits : fitsWord (10 * word + Text.digitValue c) = true
      · rw [wholeDigits, if_pos hfits, Nat.ofDigitChars_cons]
        obtain ⟨n, e, hn, he, hle⟩ := ih _
        exact ⟨n, e, hn, Nat.le_succ_of_le he, hle⟩
      · rw [wholeDigits, if_neg hfits]
        exact ⟨word, _, rfl, Nat.le_refl _, mul_pow_le_ofDigitChars word (c :: digits)⟩

/-- A whole number of so many digits is within the doubles. -/
def safeLength : Nat := 307

-- The exponent of two is not shown, for a power with a great literal would be computed.
theorem exists_ten_pow_lt : ∃ k < 1021, 10 ^ safeLength < 2 ^ k :=
  ⟨1020, by decide, by decide +kernel⟩

theorem double?_of_lt {n e : Nat} (he : e ≤ safeLength) (h : n * 10 ^ e < 10 ^ safeLength) :
    ∃ x, Scaled.double? ⟨n, e⟩ = some x := by
  obtain ⟨k, hk, hpower⟩ := exists_ten_pow_lt
  have hten : 10 ^ e ≠ 0 := Nat.ne_of_gt (Nat.pow_pos (by decide))
  have hlog : n.log2 + (10 ^ e).log2 < k := by
    apply (Nat.pow_lt_pow_iff_right Nat.one_lt_two).mp
    refine Nat.lt_of_le_of_lt ?_ hpower
    rw [Nat.pow_add]
    by_cases hn : n = 0
    · calc 2 ^ n.log2 * 2 ^ (10 ^ e).log2 = 2 ^ (10 ^ e).log2 := by simp [hn]
        _ ≤ 10 ^ e := Nat.log2_self_le hten
        _ ≤ 10 ^ safeLength := Nat.pow_le_pow_right (by decide) he
    · calc 2 ^ n.log2 * 2 ^ (10 ^ e).log2 ≤ n * 10 ^ e :=
            Nat.mul_le_mul (Nat.log2_self_le hn) (Nat.log2_self_le hten)
        _ ≤ 10 ^ safeLength := Nat.le_of_lt h
  have hfinite := Binary64.isInfinite_mul_ofNat (Nat.lt_log2_self (n := n))
    (Nat.lt_log2_self (n := 10 ^ e)) (by omega)
  have hpositive : ¬(e : Int) < 0 := by omega
  have hsmall : (e : Int) ≤ greatestPower := by
    have hgreatest : greatestPower = safeLength + 1 := rfl
    omega
  refine ⟨(Binary64.ofNat n).mul (Binary64.ofNat (Nat.pow 10 e)), ?_⟩
  unfold Scaled.double?
  dsimp only
  rw [if_neg hpositive, if_pos hsmall, Int.toNat_natCast, if_neg]
  exact Bool.eq_false_iff.mp hfinite

theorem exists_ofLiteral? (negative : Bool) {whole : List Char}
    (h : ∀ c ∈ whole, c.isDigit = true) (hlength : whole.length ≤ safeLength) :
    ∃ number, ofLiteral? ⟨negative, whole, none, none⟩ = some number := by
  obtain ⟨n, e, hscaled, he, hle⟩ := wholeDigits_le 0 whole
  have hvalue : n * 10 ^ e < 10 ^ safeLength :=
    calc n * 10 ^ e ≤ Text.ofDigits whole := hle
      _ < 10 ^ whole.length := Text.ofDigits_lt h
      _ ≤ 10 ^ safeLength := Nat.pow_le_pow_right (by decide) hlength
  obtain ⟨x, hx⟩ := double?_of_lt (Nat.le_trans he hlength) hvalue
  simp only [ofLiteral?, hscaled, ofLiteral?.signed, hx]
  split
  next =>
    split
    next => exact ⟨_, rfl⟩
    next =>
      split
      next => exact ⟨_, rfl⟩
      next => exact ⟨_, rfl⟩
  next => exact ⟨_, rfl⟩

theorem exists_read?_of_spells {cs whole : List Char} {negative : Bool}
    (h : Spells cs ⟨negative, whole, none, none⟩) (hlength : whole.length ≤ safeLength) :
    ∃ number, read? (String.ofList cs) = some (.number number) := by
  have hdigits : ∀ c ∈ whole, c.isDigit = true := by
    cases h with
    | literal hwhole _ _ => exact hwhole.isDigit
  obtain ⟨number, hnumber⟩ := exists_ofLiteral? negative hdigits hlength
  exact ⟨number, by rw [read?_of_spells h, hnumber]⟩

/-! ## Texts of doubles -/

theorem mark_mem_layOut (digits : List Char) (place : Int) :
    '.' ∈ Binary64.layOut digits place ∨ 'e' ∈ Binary64.layOut digits place := by
  unfold Binary64.layOut
  simp only
  split
  next => simp
  next =>
    split
    next => simp
    next =>
      split
      next => simp
      next => simp

theorem mark_mem_text (x : Binary64) : '.' ∈ x.text ∨ 'e' ∈ x.text := by
  unfold Binary64.text
  have hunsigned : ∀ cs : List Char, '.' ∈ cs ∨ 'e' ∈ cs →
      ('.' ∈ (if x.negative then '-' :: cs else cs)) ∨
        'e' ∈ (if x.negative then '-' :: cs else cs) := by
    intro cs hcs
    split
    next => simpa using hcs
    next => exact hcs
  apply hunsigned
  split
  next => simp
  next => exact mark_mem_layOut _ _

end Number

end ProgramGuide.Json
