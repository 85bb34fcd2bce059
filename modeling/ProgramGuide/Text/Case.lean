/-!
# Text without regard to case

Letters are folded in the ASCII range only; every other character stands for
itself.
-/

namespace ProgramGuide.Text

def foldCase (cs : List Char) : List Char := cs.map Char.toLower

def sameIgnoringCase (a b : String) : Bool := foldCase a.toList == foldCase b.toList

def startsIgnoringCase (start s : String) : Bool :=
  (foldCase start.toList).isPrefixOf (foldCase s.toList)

def endsIgnoringCase (tail s : String) : Bool :=
  (foldCase tail.toList).isSuffixOf (foldCase s.toList)

theorem sameIgnoringCase_of_same {s a b : String} (ha : sameIgnoringCase s a = true)
    (hb : sameIgnoringCase s b = true) : sameIgnoringCase a b = true := by
  unfold sameIgnoringCase at *
  rw [beq_iff_eq] at *
  exact ha.symm.trans hb

def listsIgnoringCase (texts : List String) (s : String) : Bool :=
  texts.any (sameIgnoringCase · s)

theorem eq_or_before_of_toLower {c d : Char} (h : c.toLower = d) :
    c = d ∨ 65 ≤ c.toNat ∧ c.toNat + 32 = d.toNat := by
  subst h
  unfold Char.toLower
  split
  next hupper =>
    obtain ⟨hfirst, hlast⟩ := hupper
    rw [ge_iff_le, UInt32.le_iff_toNat_le] at hfirst
    rw [UInt32.le_iff_toNat_le] at hlast
    refine .inr ⟨hfirst, ?_⟩
    change c.val.toNat + 32 = (c.val + ('a'.val - 'A'.val)).toNat
    have hoffset : ('a'.val - 'A'.val).toNat = 32 := rfl
    have hmax : 'Z'.val.toNat = 90 := rfl
    rw [UInt32.toNat_add, hoffset]
    omega
  next => exact .inl rfl

end ProgramGuide.Text
