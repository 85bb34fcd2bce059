import ProgramGuide.Text.Blank
import ProgramGuide.Text.Case
import ProgramGuide.Text.Search

/-!
# Content ratings
-/

namespace ProgramGuide.Rating

def placeholders : List String := ["N/A", "Approved", "Not Rated", "Passed"]

/-- The code with `TV` set off by a hyphen and pairs of hyphens made one, without blank
ends. -/
def tidy (code : String) : String :=
  String.ofList (Text.trimChars
    (Text.replaceAll ['-', '-'] ['-'] (Text.replaceAll ['T', 'V'] ['T', 'V', '-'] code.toList)))

def normalize? (code : String) : Option String :=
  let rating := tidy code
  if rating.isEmpty || Text.listsIgnoringCase placeholders rating then none
  else some rating

end ProgramGuide.Rating
