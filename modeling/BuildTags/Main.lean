import BuildTags.CommandLine.Execute
import Std.Time.DateTime

/-!
The program. The two git commands are not started: their output is read from files, which the
variables `GIT_TAGS` and `GIT_LOG` name. There is no connection to a service either.
-/

namespace BuildTags.CommandLine

def readEnvironment : IO Environment := do
  let mut found := []
  for name in variableNames do
    if let some value ← IO.getEnv (String.ofList name) then
      found := (name, value.toList) :: found
  return ⟨found⟩

def recordedEnding (name : String) : IO Repository.Ending := do
  match ← IO.getEnv name with
  | none => return .notStarted (name.toList ++ " is not set")
  | some path =>
    match ← (IO.FS.readFile path).toBaseIO with
    | .ok output => return .printed 0 output.toList []
    | .error error => return .notStarted error.toString.toList

def unreachable : Repository.Refusal where
  status := 503
  message := some "The service cannot be reached"

def noService : Repository.ServiceAnswers where
  repository := .error unreachable
  references := .error unreachable
  annotatedTag _ := .error unreachable
  comparison := .error unreachable
  history := .error unreachable

def today : IO Version.Date := do
  let now ← Std.Time.Timestamp.now
  let date := Std.Time.PlainDate.ofEpochDay now.toDaysSinceUnixEpoch
  return ⟨date.year.toInt.toNat, date.month.toNat, date.day.toNat⟩

def readWorld : IO World := do
  return {
    environment := ← readEnvironment
    git := ⟨← recordedEnding "GIT_TAGS", ← recordedEnding "GIT_LOG"⟩
    service := noService
    today := ← today }

def nameOf (place : Disk.Place) : String := String.ofList ('/' :: Text.join "/" place)

def loadPlace (disk : Disk) (place : Disk.Place) : IO Disk := do
  let name := nameOf place
  if let .ok _ ← (IO.FS.realPath (name ++ "/.")).toBaseIO then return disk.withFolder place
  match ← (IO.FS.readBinFile name).toBaseIO with
  | .ok bytes => return disk.withFile place bytes.toList
  | .error _ => return disk

def loadPath (disk : Disk) (path : Disk.Path) : IO Disk := do
  let mut disk := disk
  let mut place : Disk.Place := if path.root = [] then disk.working else []
  for name in path.names do
    place := if name = ".." then place.dropLast else place ++ [name]
    unless place = [] do disk ← loadPlace disk place
  return disk

def loadDisk (environment : Environment) (words : List Text) : IO Disk := do
  let folder ← IO.currentDir
  let working := Disk.Path.namesOf folder.toString.toList
  let files := match Inputs.read environment words with
    | .ok inputs => inputs.files
    | .error _ => []
  let outputs : Disk.Path := .ofText (environment.getOr "GITHUB_OUTPUT" [])
  (⟨"/", working⟩ :: outputs :: files).foldlM loadPath { working }

def store (old new : Disk) : IO Unit := do
  for folder in new.folders do
    unless old.folders.any (· = folder) do IO.FS.createDirAll (nameOf folder)
  for (place, bytes) in new.files do
    unless old.bytes? place = some bytes do
      IO.FS.writeBinFile (nameOf place) ⟨bytes.toArray⟩

def execute (words : List Text) : IO UInt32 := do
  let world ← readWorld
  let disk ← loadDisk world.environment words
  let result := run world disk words
  store disk result.disk
  IO.print (String.ofList result.printed)
  IO.eprint (String.ofList result.logged)
  match result.exit with
  | .normal => return 0
  | .status code => return code.toUInt32
  | .failed failure =>
    IO.eprintln (String.ofList failure.message)
    return 1

end BuildTags.CommandLine

def main (words : List String) : IO UInt32 :=
  BuildTags.CommandLine.execute (words.map String.toList)
