import ProgramGuide.Program.Rating
import ProgramGuide.Proofs.Text.Blank
import ProgramGuide.Proofs.Text.Search

/-!
# Tidied ratings

Tidying goes through a code once, so of a run of hyphens it takes away every other one,
and it takes the hyphen that it puts behind `TV` for one of the run.  So a rating may keep
two hyphens in a row, and lose one of them when it is tidied again.  It is in its normal
form when no run of the code was too long.
-/

namespace ProgramGuide.Rating

/-- What tidying makes of the characters of a code: runs of hyphens are halved, up. -/
inductive Tidied : List Char → List Char → Prop
  | nil : Tidied [] []
  | mark (k : Nat) {cs tidied} (hhead : cs.head? ≠ some '-') (h : Tidied cs tidied) :
      Tidied ('T' :: 'V' :: (List.replicate k '-' ++ cs))
        ('T' :: 'V' :: (List.replicate (k / 2 + 1) '-' ++ tidied))
  | run (k : Nat) {cs tidied} (hhead : cs.head? ≠ some '-') (h : Tidied cs tidied) :
      Tidied (List.replicate (k + 1) '-' ++ cs) (List.replicate (k / 2 + 1) '-' ++ tidied)
  | other {c cs tidied} (hc : c ≠ '-') (hmark : ¬['T', 'V'] <+: c :: cs)
      (h : Tidied cs tidied) : Tidied (c :: cs) (c :: tidied)

def separate : List Char → List Char := Text.replaceAll ['T', 'V'] ['T', 'V', '-']

def collapse : List Char → List Char := Text.replaceAll ['-', '-'] ['-']

theorem tidy_eq (code : String) :
    tidy code = String.ofList (Text.trimChars (collapse (separate code.toList))) := rfl

/-! ## One pass -/

theorem separate_mark (cs : List Char) :
    separate ('T' :: 'V' :: cs) = 'T' :: 'V' :: '-' :: separate cs :=
  Text.replaceAll_append (by simp) cs

theorem separate_cons {c : Char} {cs : List Char} (h : ¬['T', 'V'] <+: c :: cs) :
    separate (c :: cs) = c :: separate cs := Text.replaceAll_cons h

theorem separate_replicate (k : Nat) (cs : List Char) :
    separate (List.replicate k '-' ++ cs) = List.replicate k '-' ++ separate cs := by
  induction k with
  | zero => simp
  | succ k ih => simp [List.replicate_succ, separate_cons, ih]

theorem head?_separate (cs : List Char) : (separate cs).head? = cs.head? := by
  cases cs with
  | nil => simp [separate]
  | cons c cs =>
      by_cases h : ['T', 'V'] <+: c :: cs
      · obtain ⟨rest, hrest⟩ := h
        simp [← hrest, separate_mark]
      · simp [separate_cons h]

theorem collapse_cons {c : Char} (hc : c ≠ '-') (cs : List Char) :
    collapse (c :: cs) = c :: collapse cs :=
  Text.replaceAll_cons (by simp [hc.symm])

theorem collapse_single {cs : List Char} (hhead : cs.head? ≠ some '-') :
    collapse ('-' :: cs) = '-' :: collapse cs := by
  apply Text.replaceAll_cons
  cases cs with
  | nil => simp
  | cons c cs => simpa [eq_comm] using hhead

theorem collapse_pair (cs : List Char) : collapse ('-' :: '-' :: cs) = '-' :: collapse cs :=
  Text.replaceAll_append (by simp) cs

theorem collapse_replicate (k : Nat) {cs : List Char} (hhead : cs.head? ≠ some '-') :
    collapse (List.replicate (k + 1) '-' ++ cs) =
      List.replicate (k / 2 + 1) '-' ++ collapse cs := by
  induction k using Nat.twoStepInduction with
  | zero => simpa using collapse_single hhead
  | one => simpa using collapse_pair cs
  | more k ih _ =>
      rw [List.replicate_succ, List.replicate_succ, List.cons_append, List.cons_append,
        collapse_pair, ih, Nat.add_div_right k (by omega)]
      rfl

section Pass

variable {k : Nat} {cs : List Char} (hhead : cs.head? ≠ some '-')

include hhead

theorem pass_mark (k : Nat) :
    collapse (separate ('T' :: 'V' :: (List.replicate k '-' ++ cs))) =
      'T' :: 'V' :: (List.replicate (k / 2 + 1) '-' ++ collapse (separate cs)) := by
  rw [← head?_separate] at hhead
  rw [separate_mark, separate_replicate, collapse_cons (by decide), collapse_cons (by decide),
    ← List.cons_append, ← List.replicate_succ, collapse_replicate k hhead]

theorem pass_replicate (k : Nat) :
    collapse (separate (List.replicate (k + 1) '-' ++ cs)) =
      List.replicate (k / 2 + 1) '-' ++ collapse (separate cs) := by
  rw [← head?_separate] at hhead
  rw [separate_replicate, collapse_replicate k hhead]

end Pass

theorem exists_run (cs : List Char) : ∃ k rest,
    cs = List.replicate k '-' ++ rest ∧ rest.head? ≠ some '-' := by
  obtain ⟨k, hrun, hhead⟩ := Text.exists_dropped '-' cs
  exact ⟨k, _, hrun, hhead⟩

theorem tidied_code (code : List Char) : Tidied code (collapse (separate code)) := by
  induction hlength : code.length using Nat.strong_induction_on generalizing code with
  | _ length ih =>
      subst hlength
      cases code with
      | nil => exact .nil
      | cons c cs =>
          by_cases hmark : ['T', 'V'] <+: c :: cs
          · obtain ⟨rest, hrest⟩ := hmark
            obtain ⟨k, behind, rfl, hhead⟩ := exists_run rest
            simp only [← hrest, List.cons_append, List.nil_append] at ih ⊢
            rw [pass_mark hhead]
            exact .mark k hhead (ih behind.length (by simp +arith) behind rfl)
          by_cases hc : c = '-'
          · subst hc
            obtain ⟨k, rest, rfl, hhead⟩ := exists_run cs
            simp only [← List.cons_append, ← List.replicate_succ] at ih ⊢
            rw [pass_replicate hhead]
            exact .run k hhead (ih rest.length (by simp) rest rfl)
          · rw [separate_cons hmark, collapse_cons hc]
            exact .other hc hmark (ih cs.length (by simp) cs rfl)

/-! ## Runs and marks -/

theorem replicate_prefix_iff {m n : Nat} {cs : List Char} (hhead : cs.head? ≠ some '-') :
    List.replicate m '-' <+: List.replicate n '-' ++ cs ↔ m ≤ n := by
  induction n generalizing m with
  | zero =>
      cases m with
      | zero => simp
      | succ m =>
          cases cs with
          | nil => simp
          | cons c cs =>
              have hc : '-' ≠ c := by simpa [eq_comm] using hhead
              simp [List.replicate_succ, hc]
  | succ n ih => cases m <;> simp [List.replicate_succ, ih]

theorem replicate_infix_iff {m n : Nat} {cs : List Char} (hm : 0 < m)
    (hhead : cs.head? ≠ some '-') :
    List.replicate m '-' <:+: List.replicate n '-' ++ cs ↔
      m ≤ n ∨ List.replicate m '-' <:+: cs := by
  induction n with
  | zero => simp; omega
  | succ n ih =>
      have hprefix := replicate_prefix_iff (m := m) (n := n + 1) hhead
      rw [List.replicate_succ, List.cons_append] at hprefix
      rw [List.replicate_succ, List.cons_append, List.infix_cons_iff, hprefix, ih]
      grind

/-- A hyphen stands behind every `TV`. -/
def Separated (cs : List Char) : Prop :=
  ∀ behind, ['T', 'V'] ++ behind <:+ cs → behind.head? = some '-'

theorem separated_cons_iff {c : Char} {cs : List Char} : Separated (c :: cs) ↔
    (∀ behind, ['T', 'V'] ++ behind = c :: cs → behind.head? = some '-') ∧ Separated cs := by
  simp [Separated, List.suffix_cons_iff, or_imp, forall_and]

theorem separated_mark_iff {cs : List Char} :
    Separated ('T' :: 'V' :: cs) ↔ cs.head? = some '-' ∧ Separated cs := by
  simp [separated_cons_iff]

theorem separated_replicate_iff (n : Nat) {cs : List Char} :
    Separated (List.replicate n '-' ++ cs) ↔ Separated cs := by
  induction n with
  | zero => simp
  | succ n ih => simp [List.replicate_succ, separated_cons_iff, ih]

theorem mark_prefix_iff {c : Char} {cs : List Char} :
    ['T', 'V'] <+: c :: cs ↔ c = 'T' ∧ cs.head? = some 'V' := by
  cases cs <;> simp [eq_comm]

theorem replicate_infix_cons {c : Char} (hc : c ≠ '-') {m : Nat} (hm : 0 < m)
    (cs : List Char) :
    List.replicate m '-' <:+: c :: cs ↔ List.replicate m '-' <:+: cs := by
  obtain ⟨m, rfl⟩ := Nat.exists_eq_add_one.mpr hm
  simp [List.replicate_succ, List.infix_cons_iff, hc.symm]

theorem replicate_infix_mark_iff {m k : Nat} {cs : List Char} (hm : 0 < m)
    (hhead : cs.head? ≠ some '-') :
    List.replicate m '-' <:+: 'T' :: 'V' :: (List.replicate k '-' ++ cs) ↔
      m ≤ k ∨ List.replicate m '-' <:+: cs := by
  rw [replicate_infix_cons (by decide) hm, replicate_infix_cons (by decide) hm,
    replicate_infix_iff hm hhead]

theorem infix_replicate_iff {c : Char} (hc : c ≠ '-') (stretch : List Char) (n : Nat)
    {cs : List Char} :
    c :: stretch <:+: List.replicate n '-' ++ cs ↔ c :: stretch <:+: cs := by
  induction n with
  | zero => simp
  | succ n ih => simp [List.replicate_succ, List.infix_cons_iff, hc, ih]

def longMark : List Char := 'T' :: 'V' :: List.replicate 2 '-'

theorem longMark_infix_replicate_iff (n : Nat) {cs : List Char} :
    longMark <:+: List.replicate n '-' ++ cs ↔ longMark <:+: cs :=
  infix_replicate_iff (by decide) _ n

theorem longMark_infix_mark_iff {k : Nat} {cs : List Char} (hhead : cs.head? ≠ some '-') :
    longMark <:+: 'T' :: 'V' :: (List.replicate k '-' ++ cs) ↔
      2 ≤ k ∨ longMark <:+: cs := by
  rw [List.infix_cons_iff, List.infix_cons_iff, longMark_infix_replicate_iff]
  simp [longMark, -List.reduceReplicate, replicate_prefix_iff hhead]

theorem longMark_infix_cons {c : Char} {cs : List Char} (hmark : ¬['T', 'V'] <+: c :: cs) :
    longMark <:+: c :: cs ↔ longMark <:+: cs := by
  have hprefix : ¬longMark <+: c :: cs :=
    fun h => hmark ((List.prefix_append ['T', 'V'] _).trans h)
  rw [List.infix_cons_iff, or_iff_right hprefix]

namespace Tidied

variable {cs tidied : List Char}

theorem head?_eq (h : Tidied cs tidied) : tidied.head? = cs.head? := by
  cases h <;> simp [List.replicate_succ]

theorem separated (h : Tidied cs tidied) : Separated tidied := by
  induction h with
  | nil => simp [Separated]
  | mark k _ _ ih =>
      rw [separated_mark_iff, separated_replicate_iff]
      exact ⟨by simp [List.replicate_succ], ih⟩
  | run k _ _ ih => exact (separated_replicate_iff _).mpr ih
  | other hc hmark h ih =>
      rw [mark_prefix_iff, ← h.head?_eq, ← mark_prefix_iff] at hmark
      refine separated_cons_iff.mpr ⟨?_, ih⟩
      intro behind hbehind
      exact absurd ⟨behind, hbehind⟩ hmark

/-- Two hyphens in a row are left of three, and of two behind `TV`. -/
theorem double_iff (h : Tidied cs tidied) : List.replicate 2 '-' <:+: tidied ↔
    List.replicate 3 '-' <:+: cs ∨ longMark <:+: cs := by
  induction h with
  | nil => simp [longMark]
  | mark k hhead h ih =>
      have hhead' := hhead
      rw [← h.head?_eq] at hhead'
      have hhalf : 2 ≤ k / 2 + 1 ↔ 2 ≤ k := by omega
      rw [replicate_infix_mark_iff (by omega) hhead', replicate_infix_mark_iff (by omega) hhead,
        longMark_infix_mark_iff hhead, ih, hhalf]
      grind
  | run k hhead h ih =>
      have hhead' := hhead
      rw [← h.head?_eq] at hhead'
      rw [replicate_infix_iff (by omega) hhead', replicate_infix_iff (by omega) hhead,
        longMark_infix_replicate_iff, ih]
      grind
  | other hc hmark h ih =>
      rw [replicate_infix_cons hc (by omega), replicate_infix_cons hc (by omega),
        longMark_infix_cons hmark, ih]

/-- Nothing is changed where every `TV` has its hyphen and no hyphen follows another. -/
theorem eq_self (h : Tidied cs tidied) (hseparated : Separated cs)
    (hsingle : ¬List.replicate 2 '-' <:+: cs) : tidied = cs := by
  induction h with
  | nil => rfl
  | mark k hhead h ih =>
      rw [separated_mark_iff, separated_replicate_iff] at hseparated
      rw [replicate_infix_mark_iff (by omega) hhead, not_or] at hsingle
      have hk : k ≠ 0 := by
        rintro rfl
        exact hhead hseparated.1
      obtain rfl : k = 1 := by omega
      rw [ih hseparated.2 hsingle.2]
  | run k hhead h ih =>
      rw [separated_replicate_iff] at hseparated
      rw [replicate_infix_iff (by omega) hhead, not_or] at hsingle
      obtain rfl : k = 0 := by omega
      rw [ih hseparated hsingle.2]
  | other hc hmark h ih =>
      rw [ih (separated_cons_iff.mp hseparated).2]
      rwa [replicate_infix_cons hc (by omega)] at hsingle

end Tidied

theorem Separated.trimChars {cs : List Char} (h : Separated cs) :
    Separated (Text.trimChars cs) := by
  obtain ⟨front, back, hcs, -, hback⟩ := Text.exists_trimmed cs
  rintro behind ⟨before, hbehind⟩
  have hhead := h (behind ++ back) ⟨front ++ before, by rw [hcs, ← hbehind]; simp⟩
  cases behind with
  | nil =>
      have hblank := hback '-' (List.mem_of_mem_head? (by simpa using hhead))
      exact absurd hblank (by decide)
  | cons c behind => simpa using hhead

/-! ## Normal forms -/

structure Normal (rating : String) : Prop where
  single : ¬['-', '-'] <:+: rating.toList
  separated : Separated rating.toList
  fixed : normalize? rating = some rating

theorem normalize?_eq_some_iff {code rating : String} : normalize? code = some rating ↔
    (rating.isEmpty || Text.listsIgnoringCase placeholders rating) = false ∧
      tidy code = rating := by
  unfold normalize?
  rw [Option.ite_none_left_eq_some, Bool.not_eq_true]
  grind

theorem separated_of_normalize? {code rating : String} (h : normalize? code = some rating) :
    Separated rating.toList := by
  rw [← (normalize?_eq_some_iff.mp h).2, tidy_eq, String.toList_ofList]
  exact (tidied_code code.toList).separated.trimChars

theorem double_iff_of_normalize? {code rating : String} (h : normalize? code = some rating) :
    ['-', '-'] <:+: rating.toList ↔
      ['-', '-', '-'] <:+: code.toList ∨ ['T', 'V', '-', '-'] <:+: code.toList := by
  have hblank : ∀ c ∈ ['-', '-'], Text.isBlank c = false :=
    List.forall_mem_cons.mpr ⟨rfl, List.forall_mem_singleton.mpr rfl⟩
  rw [← (normalize?_eq_some_iff.mp h).2, tidy_eq, String.toList_ofList,
    Text.infix_trimChars_iff (by decide) hblank]
  exact (tidied_code code.toList).double_iff

theorem fixed_of_single {code rating : String} (h : normalize? code = some rating)
    (hsingle : ¬['-', '-'] <:+: rating.toList) : normalize? rating = some rating := by
  obtain ⟨hkept, htidy⟩ := normalize?_eq_some_iff.mp h
  refine normalize?_eq_some_iff.mpr ⟨hkept, ?_⟩
  rw [tidy_eq, (tidied_code rating.toList).eq_self (separated_of_normalize? h) hsingle,
    ← htidy, tidy_eq, String.toList_ofList, Text.trimChars_trimChars]

/-- A rating has its hyphen behind every `TV`, and it is normal unless its code has three
hyphens in a row, or two behind a `TV`. -/
theorem normal_iff {code rating : String} (h : normalize? code = some rating) :
    Separated rating.toList ∧
    (Normal rating ↔
      ¬['-', '-', '-'] <:+: code.toList ∧ ¬['T', 'V', '-', '-'] <:+: code.toList) := by
  have hseparated := separated_of_normalize? h
  refine ⟨hseparated, ?_⟩
  rw [← not_or, ← double_iff_of_normalize? h]
  exact ⟨fun hnormal => hnormal.single, fun hsingle =>
    ⟨hsingle, hseparated, fixed_of_single h hsingle⟩⟩

theorem normal_iff_spaced :
    normalize? " TV-PG--L " = some "TV-PG-L" ∧ Separated "TV-PG-L".toList ∧
    (Normal "TV-PG-L" ↔
      ¬['-', '-', '-'] <:+: " TV-PG--L ".toList ∧ ¬['T', 'V', '-', '-'] <:+: " TV-PG--L ".toList) ∧
    Normal "TV-PG-L" := by
  have h : normalize? " TV-PG--L " = some "TV-PG-L" := by decide +kernel
  obtain ⟨hseparated, hnormal⟩ := normal_iff h
  exact ⟨h, hseparated, hnormal, hnormal.mpr (by decide)⟩

/-- Three hyphens become two, and only a second time one. -/
theorem not_normal_of_run :
    ¬∀ code rating : String, normalize? code = some rating → Normal rating := by
  intro h
  have hnormal := h "PG---13" "PG--13" (by decide +kernel)
  exact hnormal.single (by decide)

end ProgramGuide.Rating
