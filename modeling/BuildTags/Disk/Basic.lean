import BuildTags.Disk.Fault
import BuildTags.Disk.Path
import BuildTags.Text.Line

namespace BuildTags

abbrev Disk.Place := List Text

structure Disk where
  files : List (Disk.Place × List UInt8) := []
  folders : List Disk.Place := []
  working : Disk.Place := []
  deriving DecidableEq, Repr

namespace Disk

inductive Kind
  | file
  | folder
  deriving DecidableEq, Repr

def bytes? (disk : Disk) (place : Place) : Option (List UInt8) :=
  (disk.files.find? (·.1 = place)).map (·.2)

def kind? (disk : Disk) (place : Place) : Option Kind :=
  if (disk.bytes? place).isSome then some .file
  else if place = [] ∨ place ∈ disk.folders then some .folder
  else none

/-- Sets the bytes of a file: one that is there keeps its position in the listing. -/
def putBytes (place : Place) (bytes : List UInt8) :
    List (Place × List UInt8) → List (Place × List UInt8)
  | [] => [(place, bytes)]
  | (other, old) :: files =>
    if other = place then (place, bytes) :: files else (other, old) :: putBytes place bytes files

def withFile (disk : Disk) (place : Place) (bytes : List UInt8) : Disk :=
  { disk with files := putBytes place bytes disk.files }

def withFolder (disk : Disk) (place : Place) : Disk :=
  if place = [] ∨ place ∈ disk.folders then disk
  else { disk with folders := disk.folders ++ [place] }

def maxNameBytes : Nat := 255

def maxPathBytes : Nat := 4095

def walk (disk : Disk) : (folder : Place) → List Text → Except Refusal Place
  | folder, [] => .ok folder
  | folder, name :: names =>
    if name = "." then walk disk folder names
    else if name = ".." then walk disk folder.dropLast names
    else if maxNameBytes < (Utf8.encode name).length then .error .nameTooLong
    else
      let place := folder ++ [name]
      match disk.kind? place with
      | some .folder => walk disk place names
      | some .file => .error .notAFolder
      | none => .error .notFound

/-- A path as it is written: the names between its slashes, and whether a slash stands at its start
and at its end. -/
structure Written where
  fromRoot : Bool
  names : List Text
  endsInSlash : Bool

def written (path : Text) : Except Refusal Written :=
  if maxPathBytes < (Utf8.encode path).length then .error .nameTooLong
  else .ok ⟨path.head? = some '/', (path.splitOn '/').filter (· ≠ []), path.getLast? = some '/'⟩

def start (disk : Disk) (path : Written) : Place := if path.fromRoot then [] else disk.working

/-- The place that names lead to from a folder. The last one need not be there. -/
def placeOf (disk : Disk) (folder : Place) (names : List Text) : Except Refusal Place :=
  match names.getLast? with
  | none => .ok folder
  | some last =>
    if last = "." ∨ last = ".." then disk.walk folder names
    else do
      let folder ← disk.walk folder names.dropLast
      if maxNameBytes < (Utf8.encode last).length then .error .nameTooLong
      else pure (folder ++ [last])

def place (disk : Disk) (path : Path) : Except Refusal Place := do
  let path ← written path.toText
  disk.placeOf (disk.start path) path.names

section

variable {α : Type} (path : Text)

def told : Except Refusal α → Except Fault α := Except.mapError (.refused · path)

def checkPath : Except Fault Unit :=
  if '\x00' ∈ path then .error .nullCharacter else .ok ()

end

def readText (disk : Disk) (path : Path) : Except Fault Text := do
  let name := path.toText
  checkPath name
  let place ← told name (disk.place path)
  match disk.kind? place, disk.bytes? place with
  | some .folder, _ => .error (.refused .isAFolder name)
  | _, none => .error (.refused .notFound name)
  | _, some bytes =>
    match Utf8.decode bytes with
    | .ok text => pure (Text.uniformLines text)
    | .error fault => .error (.undecodable fault)

def writeText (disk : Disk) (path : Path) (text : Text) : Except Fault Disk := do
  let name := path.toText
  checkPath name
  let place ← told name (disk.place path)
  match disk.kind? place with
  | some .folder => .error (.refused .isAFolder name)
  | _ => pure (disk.withFile place (Utf8.encode text))

/-- The place of a file that is made where it is missing. A slash at the end of the path asks for a
folder. -/
def placeToAppend (disk : Disk) (path : Text) : Except Refusal Place := do
  let path ← written path
  if path.endsInSlash then
    let _ ← disk.walk (disk.start path) path.names.dropLast
    .error .isAFolder
  else
    let place ← disk.placeOf (disk.start path) path.names
    if disk.kind? place = some .folder then .error .isAFolder else pure place

def appendText (disk : Disk) (path text : Text) : Except Fault Disk := do
  checkPath path
  let place ← told path (disk.placeToAppend path)
  let old := (disk.bytes? place).getD []
  pure (disk.withFile place (old ++ Utf8.encode text))

def makeFolder (disk : Disk) (path : Path) : Except Refusal Disk := do
  let place ← disk.place path
  match disk.kind? place with
  | some _ => .error .alreadyThere
  | none => pure (disk.withFolder place)

abbrev Change := Disk × Except Fault Unit

def unlessFolder (disk : Disk) (path : Path) (refusal : Refusal) : Change :=
  if (disk.place path).toOption.any fun place => disk.kind? place = some .folder then
    (disk, .ok ())
  else (disk, .error (.refused refusal path.toText))

/-- Makes a folder and the folders above it, as far as they are missing. Folders that were made
before a fault stay. -/
def makeFolders (disk : Disk) (root : Text) (names : List Text) : Change :=
  let path : Path := ⟨root, names⟩
  match disk.makeFolder path with
  | .ok disk => (disk, .ok ())
  | .error .notFound =>
    if h : names = [] then (disk, .error (.refused .notFound path.toText))
    else
      have : 0 < names.length := List.length_pos_iff.2 h
      match makeFolders disk root names.dropLast with
      | (disk, .error fault) => (disk, .error fault)
      | (disk, .ok ()) =>
        match disk.makeFolder path with
        | .ok disk => (disk, .ok ())
        | .error .notFound => (disk, .error (.refused .notFound path.toText))
        | .error refusal => disk.unlessFolder path refusal
  | .error refusal => disk.unlessFolder path refusal
termination_by names.length
decreasing_by simp only [List.length_dropLast]; omega

def makeParent (disk : Disk) (path : Path) : Change :=
  match checkPath path.parent.toText with
  | .error fault => (disk, .error fault)
  | .ok () => makeFolders disk path.parent.root path.parent.names

def withoutFile (disk : Disk) (place : Place) : Disk :=
  { disk with files := disk.files.filter (·.1 ≠ place) }

end Disk

end BuildTags
