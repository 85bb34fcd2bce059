import ProgramGuide.Schedule.Airing

/-!
# Distinct texts

What `firstOfEach` keeps of a list, and with it the programs of a schedule.
-/

namespace ProgramGuide

private theorem mem_firstOfEach_go {text : String} {seen texts : List String} :
    text ∈ firstOfEach.go seen texts ↔ text ∈ texts ∧ text ∉ seen := by
  induction texts generalizing seen with
  | nil => simp [firstOfEach.go]
  | cons first texts ih =>
      unfold firstOfEach.go
      split
      next hseen =>
        rw [ih, List.mem_cons]
        constructor
        · rintro ⟨htext, hfresh⟩
          exact ⟨.inr htext, hfresh⟩
        · rintro ⟨rfl | htext, hfresh⟩
          · exact absurd (List.contains_iff_mem.mp hseen) hfresh
          · exact ⟨htext, hfresh⟩
      next hseen =>
        rw [List.mem_cons, ih, List.mem_cons, List.mem_cons, not_or]
        by_cases hfirst : text = first
        · subst hfirst
          simpa using hseen
        · simp [hfirst]

@[simp] theorem mem_firstOfEach {text : String} {texts : List String} :
    text ∈ firstOfEach texts ↔ text ∈ texts := by
  simp [firstOfEach, mem_firstOfEach_go]

@[simp] theorem firstOfEach_eq_nil {texts : List String} :
    firstOfEach texts = [] ↔ texts = [] := by
  simp only [List.eq_nil_iff_forall_not_mem, mem_firstOfEach]

private theorem pairwise_firstOfEach_go {seen texts : List String} :
    (firstOfEach.go seen texts).Pairwise fun a b => texts.idxOf a < texts.idxOf b := by
  induction texts generalizing seen with
  | nil => simp [firstOfEach.go]
  | cons first texts ih =>
      have hlater {seen : List String} {text : String} (hseen : first ∈ seen)
          (htext : text ∈ firstOfEach.go seen texts) :
          (first :: texts).idxOf text = texts.idxOf text + 1 := by
        have hne : first ≠ text := by
          rintro rfl
          exact (mem_firstOfEach_go.mp htext).2 hseen
        rw [List.idxOf_cons, beq_eq_false_iff_ne.mpr hne, cond_false]
      have hrest {seen : List String} (hseen : first ∈ seen) :
          (firstOfEach.go seen texts).Pairwise fun a b =>
            (first :: texts).idxOf a < (first :: texts).idxOf b := by
        apply ih.imp_of_mem
        intro a b ha hb hab
        rw [hlater hseen ha, hlater hseen hb]
        omega
      unfold firstOfEach.go
      split
      next hseen => exact hrest (List.contains_iff_mem.mp hseen)
      next =>
        rw [List.pairwise_cons]
        refine ⟨?_, hrest List.mem_cons_self⟩
        intro text htext
        rw [List.idxOf_cons_self, hlater List.mem_cons_self htext]
        omega

/-- Some texts, each once, in the order in which they first stand in a list. -/
structure FirstSeen (texts kept : List String) : Prop where
  mem : ∀ text, text ∈ kept ↔ text ∈ texts
  nodup : kept.Nodup
  sorted : kept.Pairwise fun a b => texts.idxOf a < texts.idxOf b

theorem firstSeen_firstOfEach (texts : List String) : FirstSeen texts (firstOfEach texts) where
  mem _ := mem_firstOfEach
  nodup := by
    apply pairwise_firstOfEach_go.imp
    rintro text _ h rfl
    exact Nat.lt_irrefl _ h
  sorted := pairwise_firstOfEach_go

theorem distinctProgramIds_isEmpty (days : List ScheduleDay) :
    (distinctProgramIds days).isEmpty = (airingsOf days).isEmpty := by
  rw [Bool.eq_iff_iff]
  simp [distinctProgramIds]

end ProgramGuide
