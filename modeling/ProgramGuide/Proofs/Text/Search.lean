import Mathlib.Data.List.Infix
import Mathlib.Data.List.TakeWhile
import ProgramGuide.Text.Search

/-!
# Stretches of text

A search finds a stretch wherever it stands, and a replacement goes on behind what it
found.  Dropping a character from the front drops all of it that stand there.
-/

namespace ProgramGuide.Text

theorem occursIn_iff {part cs : List Char} : occursIn part cs = true ↔ part <:+: cs := by
  induction cs with
  | nil => simp [occursIn]
  | cons c cs ih =>
      rw [occursIn, Bool.or_eq_true, List.isPrefixOf_iff_prefix, ih, List.infix_cons_iff]

theorem exists_dropped (c : Char) (cs : List Char) : ∃ n,
    cs = List.replicate n c ++ cs.dropWhile (· == c) ∧
      (cs.dropWhile (· == c)).head? ≠ some c := by
  have hdropped : cs.takeWhile (· == c) =
      List.replicate (cs.takeWhile (· == c)).length c := by
    refine List.eq_replicate_of_mem fun d hd => ?_
    simpa using List.mem_takeWhile_imp hd
  refine ⟨(cs.takeWhile (· == c)).length, ?_, ?_⟩
  · rw [← hdropped, List.takeWhile_append_dropWhile]
  · intro hhead
    have hnot := List.head?_dropWhile_not (· == c) cs
    rw [hhead] at hnot
    simp at hnot

/-! ## Replacing -/

section ReplaceWhere

variable {hit : List Char → Bool} {width : Nat} {new : List Char}

@[simp] theorem replaceWhere_nil (passing : Nat) :
    replaceWhere hit width new passing [] = [] := by
  cases passing <;> simp [replaceWhere]

theorem replaceWhere_passing (passing : Nat) (cs : List Char) :
    replaceWhere hit width new passing cs =
      replaceWhere hit width new 0 (cs.drop passing) := by
  induction cs generalizing passing with
  | nil => simp
  | cons c cs ih =>
      cases passing with
      | zero => simp
      | succ passing => simpa [replaceWhere] using ih passing

theorem replaceWhere_of_hit {cs : List Char} (hne : cs ≠ []) (hwidth : 0 < width)
    (hhit : hit cs = true) :
    replaceWhere hit width new 0 cs =
      new ++ replaceWhere hit width new 0 (cs.drop width) := by
  cases cs with
  | nil => exact absurd rfl hne
  | cons c cs =>
      obtain ⟨width, rfl⟩ := Nat.exists_eq_add_one.mpr hwidth
      simp [replaceWhere, hhit, replaceWhere_passing width cs]

theorem replaceWhere_of_not_hit {c : Char} {cs : List Char} (h : hit (c :: cs) = false) :
    replaceWhere hit width new 0 (c :: cs) = c :: replaceWhere hit width new 0 cs := by
  simp [replaceWhere, h]

theorem replaceWhere_append {cs rest : List Char}
    (h : ∀ t, t ≠ [] → t <:+ cs → hit (t ++ rest) = false) :
    replaceWhere hit width new 0 (cs ++ rest) = cs ++ replaceWhere hit width new 0 rest := by
  induction cs with
  | nil => rfl
  | cons c cs ih =>
      have hc := h (c :: cs) (by simp) List.suffix_rfl
      rw [List.cons_append] at hc ⊢
      rw [replaceWhere_of_not_hit hc,
        ih fun t hne ht => h t hne (ht.trans (List.suffix_cons c cs)), List.cons_append]

theorem replaceWhere_sublist (passing : Nat) (cs : List Char) :
    (replaceWhere hit width [] passing cs).Sublist cs := by
  induction cs generalizing passing with
  | nil => simp
  | cons c cs ih =>
      cases passing with
      | zero =>
          unfold replaceWhere
          split
          · exact (ih (width - 1)).cons c
          · exact (ih 0).cons_cons c
      | succ passing => exact (ih passing).cons c

end ReplaceWhere

section ReplaceAll

variable {old new : List Char}

@[simp] theorem replaceAll_nil : replaceAll old new [] = [] := replaceWhere_nil 0

theorem replaceAll_append (hold : old ≠ []) (cs : List Char) :
    replaceAll old new (old ++ cs) = new ++ replaceAll old new cs := by
  unfold replaceAll
  rw [replaceWhere_of_hit (by simp [hold]) (List.length_pos_iff.mpr hold) (by simp),
    List.drop_left]

theorem replaceAll_cons {c : Char} {cs : List Char} (h : ¬old <+: c :: cs) :
    replaceAll old new (c :: cs) = c :: replaceAll old new cs := by
  apply replaceWhere_of_not_hit
  rwa [← Bool.not_eq_true, List.isPrefixOf_iff_prefix]

end ReplaceAll

end ProgramGuide.Text
