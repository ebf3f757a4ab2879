import BuildTags.CommandLine.Environment
import BuildTags.Disk.Basic
import BuildTags.Host
import BuildTags.Repository.Git
import BuildTags.Repository.Service
import BuildTags.Version.FileName

namespace BuildTags.CommandLine

structure World where
  environment : Environment
  git : Repository.GitAnswers
  service : Repository.ServiceAnswers
  today : Version.Date
  host : Host := {}

structure Progress where
  disk : Disk
  printed : Text := []
  events : List Event := []

/-- A part of a command. What was done before a failure stays done. -/
abbrev Run := ExceptT Failure (StateM Progress)

namespace Run

def traced {α : Type} (step : Traced α) : Run α := do
  modify fun progress => { progress with events := progress.events ++ step.events }
  match step.outcome with
  | .ok a => pure a
  | .error failure => throw failure

def note (level : Level) (text : Text) : Run Unit := traced (Traced.note level text)

def look {α : Type} (view : Disk → Except Failure α) : Run α := do
  traced (Traced.of (view (← get).disk))

def print (text : Text) : Run Unit :=
  modify fun progress => { progress with printed := progress.printed ++ text ++ ['\n'] }

/-- Changes the files. What is changed before a fault stays changed. -/
def change (step : Disk → Disk.Change) : Run Unit := do
  let (disk, outcome) := step (← get).disk
  modify fun progress => { progress with disk }
  match outcome with
  | .ok () => pure ()
  | .error fault => throw (.disk fault)

def changeOrLeave (step : Disk → Except Disk.Fault Disk) : Run Unit :=
  change fun disk =>
    match step disk with
    | .ok disk => (disk, .ok ())
    | .error fault => (disk, .error fault)

end Run

end BuildTags.CommandLine
