import ProgramGuide.Text.Search

/-!
# Addresses of the service

Paths are appended to the base address, which keeps its own path.
-/

namespace ProgramGuide.Address

def withoutLeadingSlashes (cs : List Char) : List Char := cs.dropWhile (· == '/')

def withoutTrailingSlashes (cs : List Char) : List Char :=
  (cs.reverse.dropWhile (· == '/')).reverse

def endpoint (base path : String) : String :=
  String.ofList
    (withoutTrailingSlashes base.toList ++ '/' :: withoutLeadingSlashes path.toList)

/-- Whether a reference to a picture carries a location of its own. -/
def isAbsolute (uri : String) : Bool :=
  Text.occursIn "http".toList (uri.toList.map Char.toLower)

def image (base uri : String) : String :=
  if isAbsolute uri then uri
  else
    endpoint base
      (String.ofList ("image/".toList ++ withoutLeadingSlashes uri.toList))

def maskToken (token : String) : String :=
  String.ofList (token.toList.take 4 ++ ['*', '*', '*', '*'])

end ProgramGuide.Address
