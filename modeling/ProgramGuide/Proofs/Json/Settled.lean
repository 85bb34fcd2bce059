import ProgramGuide.Json.Value

/-!
# Members by key

What an object has under a key is the list of all its values there.  Of these a settled
object keeps the last.
-/

namespace ProgramGuide.Json

variable {key : String} {members : List (String × Json)}

def valuesOf (key : String) (members : List (String × Json)) : List Json :=
  (members.filter (·.1 == key)).map (·.2)

theorem valuesOf_cons (m : String × Json) :
    valuesOf key (m :: members) =
      if m.1 = key then m.2 :: valuesOf key members else valuesOf key members := by
  by_cases h : m.1 = key <;> simp [valuesOf, h]

theorem valuesOf_append (xs ys : List (String × Json)) :
    valuesOf key (xs ++ ys) = valuesOf key xs ++ valuesOf key ys := by
  simp [valuesOf]

theorem valuesOf_eq_nil_iff : valuesOf key members = [] ↔ ∀ m ∈ members, m.1 ≠ key := by
  simp [valuesOf]

theorem valuesOf_perm {xs ys : List (String × Json)} (h : xs.Perm ys) :
    (valuesOf key xs).Perm (valuesOf key ys) :=
  (h.filter _).map _

/-! ## Settled members -/

/-- Sorted by key, no key twice. -/
def Ordered (members : List (String × Json)) : Prop := members.Pairwise (·.1 < ·.1)

private theorem lt_of_not_lt {a b : String} (hne : a ≠ b) (hlt : ¬a < b) : b < a := by
  rw [← String.not_le]
  intro hle
  exact hne (String.le_antisymm hle (String.not_lt.mp hlt))

private theorem mem_putMember {value : Json} {m : String × Json}
    (h : m ∈ putMember key value members) : m.1 = key ∨ m ∈ members := by
  induction members with
  | nil =>
      obtain rfl : m = (key, value) := by simpa [putMember] using h
      exact .inl rfl
  | cons first members ih =>
      unfold putMember at h
      split at h
      next => exact (List.mem_cons.mp h).imp (congrArg Prod.fst) (List.mem_cons_of_mem _)
      next =>
        split at h
        next => exact (List.mem_cons.mp h).imp_left (congrArg Prod.fst)
        next =>
          obtain rfl | h := List.mem_cons.mp h
          · exact .inr (by simp)
          · exact (ih h).imp_right (List.mem_cons_of_mem _)

private theorem Ordered.lt_all {m : String × Json} (h : Ordered (m :: members))
    (hlt : key < m.1) : ∀ other ∈ m :: members, key < other.1 := by
  rw [List.forall_mem_cons]
  exact ⟨hlt, fun other hother => String.lt_trans hlt ((List.pairwise_cons.mp h).1 other hother)⟩

private theorem valuesOf_eq_nil_of_lt (h : ∀ m ∈ members, key < m.1) :
    valuesOf key members = [] :=
  valuesOf_eq_nil_iff.mpr fun m hm heq => String.lt_irrefl _ (heq ▸ h m hm)

theorem ordered_putMember (value : Json) (h : Ordered members) :
    Ordered (putMember key value members) := by
  induction members with
  | nil => exact List.pairwise_singleton _ _
  | cons m members ih =>
      obtain ⟨hfirst, hrest⟩ := List.pairwise_cons.mp h
      unfold putMember
      split
      next heq =>
        rw [beq_iff_eq] at heq
        subst heq
        exact List.pairwise_cons.mpr ⟨hfirst, hrest⟩
      next hne =>
        split
        next hlt => exact List.pairwise_cons.mpr ⟨h.lt_all hlt, h⟩
        next hlt =>
          refine List.pairwise_cons.mpr ⟨?_, ih hrest⟩
          intro other hother
          obtain hkey | hother := mem_putMember hother
          · rw [hkey]
            exact lt_of_not_lt (by simpa using hne) hlt
          · exact hfirst other hother

theorem valuesOf_putMember {other : String} {value : Json} (h : Ordered members) :
    valuesOf other (putMember key value members) =
      if key = other then [value] else valuesOf other members := by
  induction members with
  | nil => exact valuesOf_cons (key, value)
  | cons m members ih =>
      obtain ⟨hfirst, hrest⟩ := List.pairwise_cons.mp h
      unfold putMember
      split
      next heq =>
        rw [beq_iff_eq] at heq
        subst heq
        simp only [valuesOf_cons]
        split
        next hother =>
          subst hother
          rw [valuesOf_eq_nil_of_lt hfirst]
        next => rfl
      next hne =>
        split
        next hlt =>
          rw [valuesOf_cons]
          split
          next hother =>
            subst hother
            rw [valuesOf_eq_nil_of_lt (h.lt_all hlt)]
          next => rfl
        next =>
          simp only [valuesOf_cons, ih hrest]
          have hkey : m.1 ≠ key := fun heq => hne (beq_iff_eq.mpr heq.symm)
          split <;> simp_all

/-- The last value of a key stays, settled itself. -/
theorem valuesOf_settleMembers {settled : List (String × Json)} (h : Ordered settled) :
    valuesOf key (settleMembers settled members) =
      match (valuesOf key members).getLast? with
      | some value => [value.settle]
      | none => valuesOf key settled := by
  induction members generalizing settled with
  | nil => rfl
  | cons m members ih =>
      obtain ⟨k, value⟩ := m
      rw [settleMembers, ih (ordered_putMember _ h), valuesOf_cons, valuesOf_putMember h]
      by_cases hk : k = key
      · rw [if_pos hk, if_pos hk, List.getLast?_cons]
        cases (valuesOf key members).getLast? with
        | none => rfl
        | some last => rfl
      · rw [if_neg hk, if_neg hk]

theorem settleItems_eq_map (items : List Json) : settleItems items = items.map settle := by
  induction items with
  | nil => rfl
  | cons item items ih => rw [settleItems, ih, List.map_cons]

end ProgramGuide.Json
