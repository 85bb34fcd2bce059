/-!
# Text measured in UTF-8 bytes
-/

namespace ProgramGuide.Text

def byteLength (cs : List Char) : Nat := cs.foldr (·.utf8Size + ·) 0

/-- The first `n` bytes: nothing when the text is shorter or a character would be
cut. -/
def takeBytes? : Nat → List Char → Option (List Char)
  | 0, _ => some []
  | _ + 1, [] => none
  | n + 1, c :: cs =>
      if c.utf8Size ≤ n + 1 then (takeBytes? (n + 1 - c.utf8Size) cs).map (c :: ·)
      else none

end ProgramGuide.Text
