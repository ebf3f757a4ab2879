import BuildTags.Build.Document
import BuildTags.Build.Search
import BuildTags.Changelog.History
import BuildTags.CommandLine.Inputs
import BuildTags.CommandLine.World
import BuildTags.Configuration.Reader
import BuildTags.Version.Search

namespace BuildTags.CommandLine

structure Outputs where
  tag : Text := []
  versionCode : Text := []
  versionName : Text := []
  buildNumber : Text := []
  deriving DecidableEq, Repr

def Outputs.block (outputs : Outputs) : Text :=
  "tag=" ++ outputs.tag ++ "\nversion-code=" ++ outputs.versionCode ++ "\nversion-name=" ++
    outputs.versionName ++ "\nbuild-number=" ++ outputs.buildNumber ++ "\n"

def Outputs.ofStamp (stamp : Version.Stamp) : Except Numeral.Fault Outputs := do
  let versionCode ← match stamp.code with
    | some code => Numeral.write code
    | none => pure []
  let buildNumber ← match stamp.build with
    | some build => Numeral.write build.number
    | none => pure []
  pure {
    tag := (stamp.build.map (·.name)).getD []
    versionCode
    versionName := stamp.name.getD []
    buildNumber }

def textAt (disk : Disk) (path : Disk.Path) (refused : Text → Failure) : Except Failure Text :=
  match disk.readText path with
  | .ok text => .ok text
  | .error (.refused refusal name) => .error (refused (Disk.Fault.message (.refused refusal name)))
  | .error fault => .error (.disk fault)

def configurationAt (host : Host) (disk : Disk) (path : Option Disk.Path) :
    Except Failure Configuration :=
  match path with
  | none => .ok {}
  | some path => do
    let text ← textAt disk path fun reason => .configuration (.unreadable path.toText reason)
    Configuration.read path.toText text host

def loadConfiguration (host : Host) (path : Option Disk.Path) : Run Configuration := do
  let configuration ← Run.look (configurationAt host · path)
  match path with
  | none => Run.note .debug "No configuration file given, using defaults"
  | some path =>
    Run.note .debug ("Loaded configuration from " ++ path.toText ++ " with outputs: " ++
      Match.namesOrNone (configuration.outputs.map (·.1)))
  pure configuration

def buildAt (host : Host) (disk : Disk) (path : Disk.Path) : Except Failure Build := do
  let text ← textAt disk path fun reason => .build (.unreadable path.toText reason)
  Build.read text host

def saveBuild (build : Build) (path : Disk.Path) : Run Unit := do
  Run.change (·.makeParent path)
  let text ← Run.traced (Traced.of (build.write.mapError .numeral))
  Run.changeOrLeave (·.writeText path text)
  Run.note .info ("Wrote build file " ++ path.toText ++ " for tag '" ++ build.name ++ "'")

def openSource (world : World) (inputs : Inputs) : Traced Repository.Source :=
  if inputs.source = "github" then
    Repository.serviceSource
      (Repository.orVariable inputs.token (world.environment.getOr "GITHUB_TOKEN" []))
      (Repository.orVariable inputs.repository (world.environment.getOr "GITHUB_REPOSITORY" []))
      world.service
  else pure (Repository.gitSource inputs.repoPath.toText world.git)

def findStamp (source : Repository.Source) (configuration : Configuration) (inputs : Inputs) :
    Run Version.Stamp :=
  let output := configuration.outputOf inputs.variant
  Run.traced (Version.ofSource source inputs.variant output.version output.tokens)

def outputsOf (stamp : Version.Stamp) : Run Outputs :=
  Run.traced (Traced.of ((Outputs.ofStamp stamp).mapError .numeral))

/-- Finds the last tag and writes its build file. Where the version comes from no tag, no file is
written. -/
def lastTag (source : Repository.Source) (configuration : Configuration) (inputs : Inputs) :
    Run Outputs := do
  let stamp ← findStamp source configuration inputs
  match stamp.build with
  | some build => saveBuild build inputs.buildPath
  | none => Run.note .info ("Build file not written for '" ++ inputs.variant ++
      "': versions do not come from tags")
  outputsOf stamp

def versions (source : Repository.Source) (configuration : Configuration) (inputs : Inputs) :
    Run Outputs := do
  let stamp ← findStamp source configuration inputs
  let outputs ← outputsOf stamp
  Run.print (if inputs.command = .versionCode then outputs.versionCode else outputs.versionName)
  pure outputs

def changelog (source : Repository.Source) (configuration : Configuration) (inputs : Inputs) :
    Run Outputs := do
  let output := configuration.outputOf inputs.variant
  let text ← Run.traced
    (Changelog.ofSource source inputs.variant configuration.changelog output.tokens)
  match inputs.changelogFile with
  | some path =>
    Run.change (·.makeParent path)
    Run.changeOrLeave (·.writeText path text)
    Run.note .info ("Wrote changelog for '" ++ inputs.variant ++ "' to " ++ path.toText)
  | none => Run.print text
  pure {}

def nextTag (world : World) (configuration : Configuration) (inputs : Inputs) : Run Outputs := do
  let build ← Run.look (buildAt world.host · inputs.buildPath)
  let tag ← Run.traced (build.successor (configuration.outputOf inputs.variant).tokens)
  Run.print tag
  let buildNumber ← Run.traced (Traced.of ((Numeral.write (build.number + 1)).mapError .numeral))
  pure { tag, buildNumber }

def apkName (world : World) (source : Repository.Source) (configuration : Configuration)
    (inputs : Inputs) : Run Outputs := do
  let stamp ← findStamp source configuration inputs
  let base := (configuration.outputOf inputs.variant).baseFileName
  let name := Version.fileName base stamp.build inputs.outputName world.today
  Run.print (← Run.traced (Traced.of (name.mapError .numeral)))
  outputsOf stamp

def perform (world : World) (inputs : Inputs) : Run Outputs := do
  let configuration ← loadConfiguration world.host inputs.config
  match inputs.command with
  | .nextTag => nextTag world configuration inputs
  | command =>
    let source ← Run.traced (openSource world inputs)
    match command with
    | .lastTag => lastTag source configuration inputs
    | .versionCode | .versionName => versions source configuration inputs
    | .changelog => changelog source configuration inputs
    | _ => apkName world source configuration inputs

def handOn (world : World) (outputs : Outputs) : Run Unit := do
  match world.environment.getOr "GITHUB_OUTPUT" [] with
  | [] => Run.note .debug "GITHUB_OUTPUT not set, outputs will not be written"
  | path =>
    Run.changeOrLeave (·.appendText path outputs.block)
    Run.note .info ("Set outputs: tag=" ++ outputs.tag ++ ", version-code=" ++
      outputs.versionCode)

inductive Exit
  | normal
  | status (code : Nat)
  | failed (failure : Failure)
  deriving DecidableEq, Repr

structure Result where
  exit : Exit
  printed : Text
  logged : Text
  requests : List Repository.Request
  disk : Disk

/-- Carries out a command and hands on its outputs. A failure of the command is reported and gives
the status one. -/
def session (world : World) (inputs : Inputs) : Run Exit := do
  Run.note .debug ("Command: " ++ inputs.command.name ++ ", variant: " ++ inputs.variant ++
    ", source: " ++ inputs.source)
  let report (failure : Failure) : Run (Option Outputs) := do
    if failure.isReported then
      Run.note .error failure.message
      pure none
    else throw failure
  match ← tryCatch (some <$> perform world inputs) report with
  | none => pure (.status 1)
  | some outputs =>
    handOn world outputs
    pure .normal

def run (world : World) (disk : Disk) (words : List Text) : Result :=
  match Inputs.read world.environment words with
  | .error stop => ⟨.status stop.status, [], stop.line, [], disk⟩
  | .ok inputs =>
    let (outcome, progress) := (session world inputs).run { disk }
    let exit := match outcome with
      | .ok exit => exit
      | .error failure => .failed failure
    ⟨exit, progress.printed, shownLines inputs.debug (progress.events.filterMap Event.note?),
      progress.events.filterMap Event.request?, progress.disk⟩

end BuildTags.CommandLine
