import BuildTags.Text.Basic

namespace BuildTags.Disk

/-- A path in parts: the slashes that it starts with, and the names after them. Empty names and
single dots are left out; two dots are kept. -/
structure Path where
  root : Text
  names : List Text
  deriving DecidableEq, Repr

namespace Path

/-- The slashes that count at the start: exactly two are kept, any other number is one. -/
def rootOf (text : Text) : Text :=
  match (text.takeWhile (· = '/')).length with
  | 0 => []
  | 2 => "//"
  | _ => "/"

def namesOf (text : Text) : List Text :=
  (text.splitOn '/').filter fun name => name ≠ [] && name ≠ ['.']

def ofText (text : Text) : Path := ⟨rootOf text, namesOf text⟩

def toText (path : Path) : Text :=
  match path.root ++ Text.join "/" path.names with
  | [] => ['.']
  | text => text

def parent (path : Path) : Path := { path with names := path.names.dropLast }

def join (folder : Path) (text : Text) : Path :=
  if rootOf text = [] then { folder with names := folder.names ++ namesOf text } else ofText text

end Path

end BuildTags.Disk
