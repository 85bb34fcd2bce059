import ProgramGuide.Text.Bytes

/-!
# Cutting text by bytes

The first bytes of a text are a prefix of it with that many bytes, when there is one.
For ASCII text bytes and characters are the same.
-/

namespace ProgramGuide.Text

@[simp] theorem byteLength_nil : byteLength [] = 0 := rfl

@[simp] theorem byteLength_cons (c : Char) (cs : List Char) :
    byteLength (c :: cs) = c.utf8Size + byteLength cs := rfl

@[simp] theorem byteLength_append (a b : List Char) :
    byteLength (a ++ b) = byteLength a + byteLength b := by
  induction a with
  | nil => simp
  | cons c a ih => simp [ih, Nat.add_assoc]

theorem takeBytes?_eq_some_iff {n : Nat} {cs taken : List Char} :
    takeBytes? n cs = some taken ↔ taken <+: cs ∧ byteLength taken = n := by
  induction n, cs using takeBytes?.induct generalizing taken with
  | case1 cs =>
      cases taken with
      | nil => simp [takeBytes?]
      | cons c taken =>
          have hc := c.utf8Size_pos
          simp [takeBytes?]
          omega
  | case2 n =>
      simp only [takeBytes?, List.prefix_nil]
      constructor
      · intro h
        cases h
      · rintro ⟨rfl, h⟩
        cases h
  | case3 n c cs hfits ih =>
      rw [takeBytes?, if_pos hfits, Option.map_eq_some_iff]
      cases taken with
      | nil => simp
      | cons d taken =>
          simp only [ih, List.cons.injEq, List.cons_prefix_cons, byteLength_cons]
          constructor
          · rintro ⟨rest, ⟨hrest, hlength⟩, rfl, rfl⟩
            exact ⟨⟨rfl, hrest⟩, by omega⟩
          · rintro ⟨⟨rfl, htaken⟩, hlength⟩
            exact ⟨taken, ⟨htaken, by omega⟩, rfl, rfl⟩
  | case4 n c cs hlong =>
      rw [takeBytes?, if_neg hlong]
      cases taken with
      | nil => simp
      | cons d taken =>
          simp only [List.cons_prefix_cons, byteLength_cons]
          constructor
          · intro h
            cases h
          · rintro ⟨⟨rfl, -⟩, hlength⟩
            omega

theorem takeBytes?_eq_none_iff {n : Nat} {cs : List Char} :
    takeBytes? n cs = none ↔ ∀ taken, taken <+: cs → byteLength taken ≠ n := by
  rw [Option.eq_none_iff_forall_ne_some]
  apply forall_congr'
  intro taken
  rw [ne_eq, takeBytes?_eq_some_iff, not_and]

def Ascii (s : String) : Prop := ∀ c ∈ s.toList, c.toNat < 128

instance (s : String) : Decidable (Ascii s) :=
  List.decidableBAll (fun c : Char => c.toNat < 128) s.toList

theorem utf8Size_of_ascii {c : Char} (h : c.toNat < 128) : c.utf8Size = 1 := by
  rw [Char.utf8Size_eq_one_iff, UInt32.le_iff_toNat_le]
  exact Nat.le_of_lt_succ h

theorem byteLength_of_ascii {cs : List Char} (h : ∀ c ∈ cs, c.toNat < 128) :
    byteLength cs = cs.length := by
  induction cs with
  | nil => rfl
  | cons c cs ih =>
      rw [List.forall_mem_cons] at h
      rw [byteLength_cons, ih h.2, utf8Size_of_ascii h.1, List.length_cons, Nat.add_comm]

end ProgramGuide.Text
