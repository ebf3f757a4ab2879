import BuildTags.CommandLine.Environment
import BuildTags.CommandLine.Word
import BuildTags.Disk.Path
import BuildTags.Text.LetterCase

namespace BuildTags.CommandLine

inductive Stop
  | help
  | misuse (misuse : Misuse)
  deriving DecidableEq, Repr

def Stop.status : Stop → Nat
  | .help => 0
  | .misuse _ => 2

def Stop.line : Stop → Text
  | .help => []
  | .misuse fault => "tagversion: error: " ++ fault.message ++ "\n"

structure Said where
  command : Option Command := none
  values : List (Setting × Text) := []
  debug : Bool := false
  deriving DecidableEq, Repr

/-- Letters after `-h` ask for help as often as they say; anything that looks like a value is
refused. -/
def helpLetters : (equals : Bool) → Text → Stop
  | _, [] => .misuse (.valueIgnored .help [])
  | true, value => .misuse (.valueIgnored .help value)
  | false, c :: rest =>
    if c = '-' then .misuse (.valueIgnored .help (c :: rest))
    else if c = 'h' then
      match rest with
      | [] => .help
      | '=' :: value => .misuse (.valueIgnored .help value)
      | rest => helpLetters false rest
    else .help

def commandOf (word : Text) : Except Stop Command :=
  match Command.ofName? word with
  | some command => .ok command
  | none => .error (.misuse (.unknownCommand word))

def Said.put (said : Said) (setting : Setting) (value : Text) : Except Stop Said :=
  if setting = .source ∧ value ∉ sourceNames then .error (.misuse (.unknownSource value))
  else .ok { said with values := (setting, value) :: said.values }

/-- Reads the words in order. The first plain word is the command; where there is none, `fallback`
is. Words without a meaning are collected. -/
def readWords (fallback : Text) :
    List (Text × Role) → Said → (strays : List Text) → Except Stop (Said × List Text)
  | [], said, strays =>
    if said.command.isSome then .ok (said, strays.reverse)
    else do pure ({ said with command := some (← commandOf fallback) }, strays.reverse)
  | (word, .unknown) :: words, said, strays => readWords fallback words said (word :: strays)
  | (_, .letter value equals) :: _, _, _ => .error (helpLetters equals value)
  | (_, .setting setting (some value)) :: words, said, strays =>
    if setting.takesValue then do
      readWords fallback words (← said.put setting value) strays
    else .error (.misuse (.valueIgnored setting value))
  | (_, .setting .help none) :: _, _, _ => .error .help
  | (_, .setting .debug none) :: words, said, strays =>
    readWords fallback words { said with debug := true } strays
  | (_, .setting setting none) :: (value, .plain) :: words, said, strays => do
    readWords fallback words (← said.put setting value) strays
  | (_, .setting setting none) :: _, _, _ => .error (.misuse (.valueMissing setting))
  | (word, .plain) :: (mark, .stopMark) :: words, said, strays =>
    if said.command.isSome then readWords fallback words said (mark :: word :: strays)
    else do
      readWords fallback words { said with command := some (← commandOf word) } strays
  | (word, .plain) :: words, said, strays =>
    if said.command.isSome then readWords fallback words said (word :: strays)
    else do
      readWords fallback words { said with command := some (← commandOf word) } strays
  | (mark, .stopMark) :: words, said, strays =>
    if said.command.isSome then readWords fallback words said (mark :: strays)
    else
      match words with
      | [] => do
        pure ({ said with command := some (← commandOf fallback) }, strays.reverse)
      | (word, _) :: words => do
        readWords fallback words { said with command := some (← commandOf word) } strays

def Said.value? (said : Said) (setting : Setting) : Option Text :=
  (said.values.find? (·.1 = setting)).map (·.2)

structure Inputs where
  command : Command
  variant : Text
  config : Option Disk.Path
  source : Text
  repoPath : Disk.Path
  token : Text
  repository : Text
  outputDir : Disk.Path
  buildFile : Option Disk.Path
  changelogFile : Option Disk.Path
  outputName : Text
  debug : Bool
  deriving DecidableEq, Repr

def Inputs.buildPath (inputs : Inputs) : Disk.Path :=
  match inputs.buildFile with
  | some path => path
  | none => inputs.outputDir.join ("tag-build-" ++ inputs.variant ++ ".json")

/-- The files that a command may read or write, the outputs of a workflow not among them. -/
def Inputs.files (inputs : Inputs) : List Disk.Path :=
  inputs.config.toList ++ inputs.changelogFile.toList ++ [inputs.buildPath]

def path? (text : Text) : Option Disk.Path :=
  if text = [] then none else some (.ofText text)

def variableNames : List Text :=
  ["INPUT_COMMAND", "INPUT_VARIANT", "INPUT_CONFIG", "INPUT_SOURCE", "INPUT_REPO_PATH",
   "INPUT_TOKEN", "INPUT_OUTPUT_DIR", "INPUT_DEBUG", "GITHUB_TOKEN", "GITHUB_REPOSITORY",
   "GITHUB_OUTPUT"]

def tokenVariable (environment : Environment) : Text :=
  environment.getOr "INPUT_TOKEN" (environment.getOr "GITHUB_TOKEN" [])

def Inputs.read (environment : Environment) (words : List Text) : Except Stop Inputs := do
  let roles ← (roles words).mapError Stop.misuse
  let (said, strays) ← readWords (environment.getOr "INPUT_COMMAND" "last-tag") roles {} []
  if strays ≠ [] then throw (.misuse (.unrecognized strays))
  let value (setting : Setting) (default : Text) : Text := (said.value? setting).getD default
  let variant := value .variant (environment.getOr "INPUT_VARIANT" [])
  if variant = [] then throw (.misuse .variantMissing)
  pure {
    command := said.command.getD .lastTag
    variant
    config := path? (value .config (environment.getOr "INPUT_CONFIG" []))
    source := value .source (environment.getOr "INPUT_SOURCE" "git")
    repoPath := .ofText (value .repoPath (environment.getOr "INPUT_REPO_PATH" "."))
    token := value .token (tokenVariable environment)
    repository := value .repository (environment.getOr "GITHUB_REPOSITORY" [])
    outputDir := .ofText
      (value .outputDir (environment.getOr "INPUT_OUTPUT_DIR" "build/tag-versioning"))
    buildFile := path? (value .buildFile [])
    changelogFile := path? (value .changelogFile [])
    outputName := value .outputName "app.apk"
    debug := said.debug ||
      Text.lowerAscii (environment.getOr "INPUT_DEBUG" "false") = ("true" : Text) }

end BuildTags.CommandLine
