import ProgramGuide.Text.Search

/-!
# Files

Directories and files below one root, and what a path leads to.  A path is followed name
by name from the working directory, or from the root if it starts with a slash.
-/

namespace ProgramGuide

inductive FileFault where
  | missing
  | notDirectory
  | isDirectory
  | nameTooLong
  deriving DecidableEq, Repr

def FileFault.message : FileFault → String
  | .missing => "No such file or directory (os error 2)"
  | .notDirectory => "Not a directory (os error 20)"
  | .isDirectory => "Is a directory (os error 21)"
  | .nameTooLong => "File name too long (os error 36)"

abbrev Place := List String

structure FileTree where
  directories : List Place
  files : List (Place × String)
  working : Place
  deriving DecidableEq, Repr

namespace FileTree

inductive Found where
  | nothing
  | directory
  | file (text : String)
  deriving DecidableEq, Repr

def found (t : FileTree) (place : Place) : Found :=
  match t.files.lookup place with
  | some text => .file text
  | none => if t.directories.contains place then .directory else .nothing

/-! ## Paths -/

/-- Names have at most so many bytes. -/
def longestName : Nat := 255

def longestPath : Nat := 4095

def names (path : String) : List String :=
  ((Text.splitAt '/' path.toList).map String.ofList).filter (· != "")

def endsInSlash (path : String) : Bool := path.toList.getLast? == some '/'

def needDirectory (t : FileTree) (place : Place) : Except FileFault Unit :=
  match t.found place with
  | .nothing => .error .missing
  | .file _ => .error .notDirectory
  | .directory => .ok ()

def follow (t : FileTree) (place : Place) : List String → Except FileFault Place
  | [] => .ok place
  | name :: names => do
      t.needDirectory place
      if longestName < name.utf8ByteSize then throw .nameTooLong
      if name == "." then t.follow place names
      else if name == ".." then t.follow place.dropLast names
      else t.follow (place ++ [name]) names

def start (t : FileTree) (path : String) : Except FileFault Place :=
  if path.isEmpty then .error .missing
  else if longestPath < path.utf8ByteSize then .error .nameTooLong
  else if path.toList.head? == some '/' then .ok []
  else .ok t.working

/-- What a path leads to.  Behind a slash at its end there is no file. -/
def find (t : FileTree) (path : String) : Except FileFault Found := do
  let place ← t.follow (← t.start path) (names path)
  match t.found place with
  | .file text => if endsInSlash path then throw .notDirectory else return .file text
  | found => return found

/-! ## Reading and making files -/

def has (t : FileTree) (path : String) : Bool :=
  match t.find path with
  | .ok .nothing | .error _ => false
  | .ok _ => true

def read (t : FileTree) (path : String) : Except FileFault String := do
  match ← t.find path with
  | .file text => return text
  | .directory => throw .isDirectory
  | .nothing => throw .missing

/-- Makes a file in a directory that is there.  A slash behind its name would make it a
directory. -/
def create (t : FileTree) (path text : String) : Except FileFault FileTree := do
  let directory ← t.follow (← t.start path) (names path).dropLast
  t.needDirectory directory
  if endsInSlash path then throw .isDirectory
  let place ← t.follow directory ((names path).drop ((names path).length - 1))
  match t.found place with
  | .directory => throw .isDirectory
  | _ => return { t with files := (place, text) :: t.files }

end FileTree

end ProgramGuide
