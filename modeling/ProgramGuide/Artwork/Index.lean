import ProgramGuide.Artwork.Candidate

/-!
# Artwork by program

The candidates of several shows, found by the root that their program ids share.
-/

namespace ProgramGuide

abbrev ArtworkIndex := List (String × List ArtworkCandidate)

namespace ArtworkIndex

def get? (index : ArtworkIndex) (root : String) : Option (List ArtworkCandidate) :=
  index.lookup root

def add (artwork : ShowArtwork) : ArtworkIndex → ArtworkIndex
  | [] => [(artwork.programId, artwork.candidates)]
  | (root, candidates) :: rest =>
      if root == artwork.programId then (root, candidates ++ artwork.candidates) :: rest
      else (root, candidates) :: add artwork rest

def ofShows (shows : List ShowArtwork) : ArtworkIndex :=
  shows.foldl (fun index artwork => add artwork index) []

end ArtworkIndex

end ProgramGuide
