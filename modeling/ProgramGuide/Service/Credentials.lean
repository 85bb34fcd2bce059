import ProgramGuide.Text.Blank
import ProgramGuide.Text.Bytes
import ProgramGuide.Text.Quoted

/-!
# Credentials
-/

namespace ProgramGuide

structure Credentials where
  username : String
  password : String
  deriving DecidableEq, Repr

namespace Credentials

def isComplete (c : Credentials) : Bool := !Text.blank c.username && !c.password.isEmpty

/-- A description that shows no more of the password than its length. -/
def describe (c : Credentials) : String :=
  let length := Text.natural (Text.byteLength c.password.toList)
  "Credentials \x7b username: " ++ Text.quoted c.username ++
    ", password: " ++ Text.quoted (length ++ "chars") ++ " \x7d"

end Credentials

end ProgramGuide
