import ProgramGuide.Toml.Quote

/-!
# Quoted text

Between quotes every character is spelled so that it does not end the string, and what is
spelled is read back, whatever characters there are.
-/

namespace ProgramGuide.Toml

open quote (escapeCharacter)

/-- The ways that a character is spelled in a basic string. -/
inductive Spelled : Char → List Char → Prop
  | plain {c : Char} (hquote : c ≠ '"') (hslash : c ≠ '\\') (h : isForbidden c = false) :
      Spelled c [c]
  | simple {c e : Char} (hcode : codeLength? e = none) (h : simpleEscape? e = some c) :
      Spelled c ['\\', e]
  | code {c : Char} (h : isForbidden c = true) :
      Spelled c ('\\' :: 'u' :: Text.paddedHex 4 c.toNat)

theorem spelled_escapeCharacter (c : Char) : Spelled c (escapeCharacter c) := by
  unfold escapeCharacter
  split
  case h_6 hquote hslash _ _ _ =>
    split
    next h => exact .code h
    next h => exact .plain hquote hslash (Bool.eq_false_iff.mpr h)
  all_goals exact .simple rfl rfl

theorem Spelled.opens {c : Char} {cs : List Char} (h : Spelled c cs) :
    ∃ d ds, cs = d :: ds ∧ d ≠ '"' := by
  cases h with
  | plain hquote _ _ => exact ⟨c, [], rfl, hquote⟩
  | simple _ _ => exact ⟨'\\', _, rfl, by decide⟩
  | code _ => exact ⟨'\\', _, rfl, by decide⟩

/-- Four digits tell a forbidden character. -/
theorem paddedHex_forbidden {c : Char} (h : isForbidden c = true) :
    (Text.paddedHex 4 c.toNat).length = 4 ∧
      ((Text.paddedHex 4 c.toNat).all fun d => d != '"' && d != '\\' && d != '\n') = true ∧
      (Text.ofHexDigits? (Text.paddedHex 4 c.toNat)).bind scalarOf? = some c := by
  have hdigits : ∀ n < 0x80, (Text.paddedHex 4 n).length = 4 ∧
      ((Text.paddedHex 4 n).all fun d => d != '"' && d != '\\' && d != '\n') = true ∧
      (Text.ofHexDigits? (Text.paddedHex 4 n)).bind scalarOf? = some (Char.ofNat n) := by
    decide +kernel
  have hlow : c.toNat < 0x80 := by
    simp only [isForbidden, Bool.or_eq_true, Bool.and_eq_true, decide_eq_true_eq,
      beq_iff_eq] at h
    omega
  have h := hdigits c.toNat hlow
  rwa [Char.ofNat_toNat] at h

/-! ## The end of a string -/

namespace Token

theorem basicText_plain {c : Char} (hquote : c ≠ '"') (hslash : c ≠ '\\') (hend : c ≠ '\n')
    (rest : List Char) : basicText (c :: rest) = c :: basicText rest := by
  rw [basicText.eq_def]
  grind

theorem basicText_passing {cs : List Char}
    (h : (cs.all fun d => d != '"' && d != '\\' && d != '\n') = true) (rest : List Char) :
    basicText (cs ++ rest) = cs ++ basicText rest := by
  induction cs with
  | nil => rfl
  | cons c cs ih =>
      simp only [List.all_cons, Bool.and_eq_true, bne_iff_ne] at h
      obtain ⟨⟨⟨hquote, hslash⟩, hend⟩, hcs⟩ := h
      rw [List.cons_append, basicText_plain hquote hslash hend, ih (by simpa using hcs)]
      rfl

theorem basicText_spelled {c : Char} {cs : List Char} (h : Spelled c cs) (rest : List Char) :
    basicText (cs ++ rest) = cs ++ basicText rest := by
  cases h with
  | plain hquote hslash h =>
      have hend : c ≠ '\n' := by
        rintro rfl
        cases h
      exact basicText_plain hquote hslash hend rest
  | simple _ h =>
      unfold simpleEscape? at h
      split at h
      case h_9 => cases h
      all_goals rfl
  | code h =>
      have hslash (cs : List Char) :
          basicText ('\\' :: 'u' :: cs) = '\\' :: basicText ('u' :: cs) := by
        rw [basicText.eq_def]
        rfl
      have hu (cs : List Char) : basicText ('u' :: cs) = 'u' :: basicText cs :=
        basicText_plain (by decide) (by decide) (by decide) cs
      rw [List.cons_append, List.cons_append, hslash, hu,
        basicText_passing (paddedHex_forbidden h).2.1]
      rfl

theorem basicText_quote (s : String) (rest : List Char) :
    basicText (s.toList.flatMap escapeCharacter ++ '"' :: rest) =
      s.toList.flatMap escapeCharacter ++ ['"'] := by
  induction s.toList with
  | nil => rfl
  | cons c cs ih =>
      rw [List.flatMap_cons, List.append_assoc, basicText_spelled (spelled_escapeCharacter c), ih,
        List.append_assoc]

end Token

/-! ## Reading -/

theorem basic?_passing (passed rest : List Char) :
    basic? passed.length (passed ++ rest) = basic? 0 rest := by
  induction passed with
  | nil => rfl
  | cons c cs ih => exact ih

theorem escape?_code {c : Char} {digits : List Char} (hlength : digits.length = 4)
    (hvalue : (Text.ofHexDigits? digits).bind scalarOf? = some c) (rest : List Char) :
    escape? ('u' :: (digits ++ rest)) = some (c, 5) := by
  have htake : (digits ++ rest).take 4 = digits := by
    rw [← hlength, List.take_left]
  obtain ⟨n, hn, hscalar⟩ := Option.bind_eq_some_iff.mp hvalue
  simp [escape?, codeLength?, htake, hlength, hn, hscalar]

theorem basic?_spelled {c : Char} {cs : List Char} (h : Spelled c cs) (rest : List Char) :
    basic? 0 (cs ++ rest) = (basic? 0 rest).map (c :: ·) := by
  cases h with
  | plain hquote hslash h =>
      simp only [List.singleton_append, basic?, beq_eq_false_iff_ne.mpr hslash, h,
        if_neg Bool.false_ne_true]
  | @simple e hcode h =>
      have hescape : escape? (e :: rest) = some (c, 1) := by simp [escape?, hcode, h]
      simp only [List.cons_append, List.nil_append, basic?, beq_self_eq_true, if_true, hescape]
  | code h =>
      obtain ⟨hlength, -, hvalue⟩ := paddedHex_forbidden h
      have hescape := escape?_code hlength hvalue rest
      have hpassing := basic?_passing (Text.paddedHex 4 c.toNat) rest
      rw [hlength] at hpassing
      simp only [List.cons_append, basic?, beq_self_eq_true, if_true, hescape, hpassing]

theorem basic?_quote (cs : List Char) : basic? 0 (cs.flatMap escapeCharacter) = some cs := by
  induction cs with
  | nil => rfl
  | cons c cs ih => rw [List.flatMap_cons, basic?_spelled (spelled_escapeCharacter c), ih]; rfl

theorem read?_quote (s : String) : Quotes.read? .basic (quote s) = some s.toList := by
  have hbefore (cs : List Char) : before? 1 '"' (cs ++ ['"']) = some cs := by
    simp [before?]
  rw [Quotes.read?, quote, List.cons_append, List.drop_one, List.tail_cons, hbefore]
  exact basic?_quote s.toList

end ProgramGuide.Toml
