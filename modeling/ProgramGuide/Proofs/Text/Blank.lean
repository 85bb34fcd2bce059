import Mathlib.Data.List.DropRight
import ProgramGuide.Text.Blank

/-!
# Trimmed text

Trimmed text has no blank at its ends, so trimming it again changes nothing, and unless
it is empty it is not blank.
-/

namespace ProgramGuide.Text

variable {cs : List Char}

private theorem trimStart_trimChars : trimStart (trimChars cs) = trimChars cs := by
  have hprefix : trimChars cs <+: trimStart cs := List.rdropWhile_prefix isBlank _
  cases htrimmed : trimChars cs with
  | nil => rfl
  | cons c rest =>
      rw [htrimmed] at hprefix
      obtain ⟨tail, htail⟩ := hprefix
      have hhead := List.head?_dropWhile_not isBlank cs
      rw [← trimStart, ← htail] at hhead
      have hc : isBlank c = false := by simpa using hhead
      rw [trimStart, List.dropWhile_cons_of_neg (by simp [hc])]

@[simp] theorem trimChars_trimChars : trimChars (trimChars cs) = trimChars cs := by
  have hend : trimEnd (trimChars cs) = trimChars cs := List.rdropWhile_idempotent isBlank _
  rw [trimChars, trimStart_trimChars, hend]

theorem trimChars_eq_nil_iff : trimChars cs = [] ↔ ∀ c ∈ cs, isBlank c = true := by
  have hend : trimChars cs = [] ↔ ∀ c ∈ trimStart cs, isBlank c = true :=
    List.rdropWhile_eq_nil_iff
  rw [hend]
  constructor
  · intro h
    cases hstart : trimStart cs with
    | nil => exact List.dropWhile_eq_nil_iff.mp hstart
    | cons c rest =>
        have hhead := List.head?_dropWhile_not isBlank cs
        rw [← trimStart, hstart] at hhead
        have hc : isBlank c = false := by simpa using hhead
        rw [h c (by simp [hstart])] at hc
        cases hc
  · intro h c hc
    exact h c ((List.dropWhile_sublist isBlank).mem hc)

theorem isEmpty_trim (s : String) : (trim s).isEmpty = blank s := by
  rw [Bool.eq_iff_iff, String.isEmpty_iff, blank, List.all_eq_true, ← trimChars_eq_nil_iff,
    ← String.toList_inj]
  simp [trim]

theorem trim_ofList_trimChars : trim (String.ofList (trimChars cs)) =
    String.ofList (trimChars cs) := by
  simp [trim]

theorem blank_ofList_trimChars (h : trimChars cs ≠ []) :
    blank (String.ofList (trimChars cs)) = false := by
  have hlast : ¬isBlank ((trimChars cs).getLast h) = true := List.rdropWhile_last_not isBlank _ h
  rw [blank, String.toList_ofList, List.all_eq_false]
  exact ⟨_, List.getLast_mem h, hlast⟩

theorem mem_trimChars {c : Char} (hc : isBlank c = false) (h : c ∈ cs) : c ∈ trimChars cs := by
  have hdrop {cs : List Char} (h : c ∈ cs) : c ∈ cs.dropWhile isBlank := by
    rw [← List.takeWhile_append_dropWhile (p := isBlank) (l := cs), List.mem_append] at h
    refine h.resolve_left fun htaken => ?_
    rw [List.mem_takeWhile_imp htaken] at hc
    cases hc
  exact List.mem_reverse.mpr (hdrop (List.mem_reverse.mpr (hdrop h)))

theorem exists_trimmed (cs : List Char) : ∃ front back,
    cs = front ++ (trimChars cs ++ back) ∧ (∀ c ∈ front, isBlank c = true) ∧
      ∀ c ∈ back, isBlank c = true := by
  refine ⟨cs.takeWhile isBlank, (trimStart cs).rtakeWhile isBlank, ?_, ?_, ?_⟩
  · have hend : trimChars cs ++ (trimStart cs).rtakeWhile isBlank = trimStart cs :=
      List.rdropWhile_append_rtakeWhile
    rw [hend, trimStart, List.takeWhile_append_dropWhile]
  · exact fun c hc => List.mem_takeWhile_imp hc
  · exact fun c hc => List.mem_rtakeWhile_imp hc

section Stretch

variable {stretch : List Char} (hne : stretch ≠ [])
variable (hstretch : ∀ c ∈ stretch, isBlank c = false)

include hne hstretch

theorem infix_trimStart_iff : stretch <:+: trimStart cs ↔ stretch <:+: cs := by
  induction cs with
  | nil => simp [trimStart]
  | cons c cs ih =>
      by_cases hc : isBlank c = true
      · have hprefix : ¬stretch <+: c :: cs := by
          cases stretch with
          | nil => exact absurd rfl hne
          | cons d rest =>
              have hd := hstretch d List.mem_cons_self
              grind
        rw [trimStart, List.dropWhile_cons_of_pos hc, List.infix_cons_iff,
          or_iff_right hprefix]
        exact ih
      · rw [trimStart, List.dropWhile_cons_of_neg hc]

/-- A stretch without blanks is not cut. -/
theorem infix_trimChars_iff : stretch <:+: trimChars cs ↔ stretch <:+: cs := by
  have hend : trimChars cs = (trimStart (trimStart cs).reverse).reverse := rfl
  rw [hend, ← List.reverse_infix, List.reverse_reverse,
    infix_trimStart_iff (by simpa using hne) (by simpa using hstretch), List.reverse_infix,
    infix_trimStart_iff hne hstretch]

end Stretch

/-- Text without blanks stays as it is between what is cut. -/
theorem trimChars_append {front kept : List Char} (hfront : ∀ c ∈ front, isBlank c = true)
    (hne : kept ≠ []) (hkept : ∀ c ∈ kept, isBlank c = false) (rest : List Char) :
    trimChars (front ++ (kept ++ rest)) = kept ++ trimEnd rest := by
  have hdrop {kept : List Char} (hne : kept ≠ []) (hkept : ∀ c ∈ kept, isBlank c = false)
      (rest : List Char) : (kept ++ rest).dropWhile isBlank = kept ++ rest := by
    cases kept with
    | nil => exact absurd rfl hne
    | cons c kept => exact List.dropWhile_cons_of_neg (by simp [hkept c])
  have hback := hdrop (List.reverse_ne_nil_iff.mpr hne) (by simpa using hkept) []
  rw [List.append_nil] at hback
  rw [trimChars, trimStart, List.dropWhile_append_of_pos hfront, hdrop hne hkept, trimEnd,
    List.reverse_append, List.dropWhile_append, hback]
  split
  next hblank => simp [trimEnd, List.isEmpty_iff.mp hblank]
  next => simp [trimEnd]

theorem trimChars_of_not_blank (h : ∀ c ∈ cs, isBlank c = false) : trimChars cs = cs := by
  by_cases hne : cs = []
  · simp [hne, trimChars, trimStart, trimEnd]
  · simpa [trimEnd] using trimChars_append (List.forall_mem_nil (isBlank · = true)) hne h []

end ProgramGuide.Text
