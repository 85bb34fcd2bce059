/-!
# Blank space

A character is blank when it has the Unicode property White_Space.  Text is
compared and tested after its blank ends are cut.
-/

namespace ProgramGuide.Text

/-- The property White_Space: six controls, the space, and the wide spaces. -/
def isBlank (c : Char) : Bool :=
  let n := c.toNat
  (9 ≤ n && n ≤ 13) || n == 0x20 || n == 0x85 || n == 0xA0 || n == 0x1680 ||
    (0x2000 ≤ n && n ≤ 0x200A) || n == 0x2028 || n == 0x2029 || n == 0x202F ||
    n == 0x205F || n == 0x3000

def trimStart (cs : List Char) : List Char := cs.dropWhile isBlank

def trimEnd (cs : List Char) : List Char := (cs.reverse.dropWhile isBlank).reverse

def trimChars (cs : List Char) : List Char := trimEnd (trimStart cs)

def trim (s : String) : String := String.ofList (trimChars s.toList)

def blank (s : String) : Bool := s.toList.all isBlank

def nonBlank? (s : String) : Option String := if blank s then none else some s

theorem nonBlank?_eq_some_iff {s t : String} :
    nonBlank? s = some t ↔ s = t ∧ blank t = false := by
  unfold nonBlank?
  cases hblank : blank s with
  | true =>
      constructor
      · intro h
        cases h
      · rintro ⟨rfl, h⟩
        simp [hblank] at h
  | false =>
      constructor
      · intro h
        cases h
        exact ⟨rfl, hblank⟩
      · rintro ⟨rfl, -⟩
        rfl

end ProgramGuide.Text
