/-!
# Finding and replacing

Occurrences are taken from the left and do not overlap: after one is found the
search goes on behind it.
-/

namespace ProgramGuide.Text

/-- Replaces every stretch of `width` characters at which `hit` holds; the first
argument counts the characters of a found stretch that are still to be passed. -/
def replaceWhere (hit : List Char → Bool) (width : Nat) (new : List Char) :
    Nat → List Char → List Char
  | _, [] => []
  | passing + 1, _ :: cs => replaceWhere hit width new passing cs
  | 0, c :: cs =>
      if hit (c :: cs) then new ++ replaceWhere hit width new (width - 1) cs
      else c :: replaceWhere hit width new 0 cs

def replaceAll (old new cs : List Char) : List Char :=
  replaceWhere old.isPrefixOf old.length new 0 cs

def removeIgnoringCase (old cs : List Char) : List Char :=
  replaceWhere (fun rest => (old.map Char.toLower).isPrefixOf (rest.map Char.toLower))
    old.length [] 0 cs

def occursIn (part : List Char) : List Char → Bool
  | [] => part.isEmpty
  | c :: cs => part.isPrefixOf (c :: cs) || occursIn part cs

def afterLast? (mark : List Char) : List Char → Option (List Char)
  | [] => none
  | c :: cs =>
      match afterLast? mark cs with
      | some rest => some rest
      | none =>
          if mark.isPrefixOf (c :: cs) then some ((c :: cs).drop mark.length) else none

def splitAt (separator : Char) : List Char → List (List Char)
  | [] => [[]]
  | c :: cs =>
      if c == separator then [] :: splitAt separator cs
      else
        match splitAt separator cs with
        | [] => [[c]]
        | piece :: pieces => (c :: piece) :: pieces

end ProgramGuide.Text
