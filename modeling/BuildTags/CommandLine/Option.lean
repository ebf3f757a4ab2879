import BuildTags.Text.Basic

namespace BuildTags.CommandLine

inductive Command
  | lastTag
  | versionCode
  | versionName
  | changelog
  | nextTag
  | apkName
  deriving DecidableEq, Repr

def Command.named : List (Text × Command) :=
  [("last-tag", .lastTag), ("version-code", .versionCode), ("version-name", .versionName),
   ("changelog", .changelog), ("next-tag", .nextTag), ("apk-name", .apkName)]

def Command.ofName? (name : Text) : Option Command :=
  (Command.named.find? (·.1 = name)).map (·.2)

def Command.name : Command → Text
  | .lastTag => "last-tag"
  | .versionCode => "version-code"
  | .versionName => "version-name"
  | .changelog => "changelog"
  | .nextTag => "next-tag"
  | .apkName => "apk-name"

def sourceNames : List Text := ["git", "github"]

inductive Setting
  | help
  | variant
  | config
  | source
  | repoPath
  | token
  | repository
  | outputDir
  | buildFile
  | changelogFile
  | outputName
  | debug
  deriving DecidableEq, Repr

def settingWords : List (Text × Setting) :=
  [("-h", .help), ("--help", .help), ("--variant", .variant), ("--config", .config),
   ("--source", .source), ("--repo-path", .repoPath), ("--token", .token),
   ("--repository", .repository), ("--output-dir", .outputDir), ("--build-file", .buildFile),
   ("--changelog-file", .changelogFile), ("--output-name", .outputName), ("--debug", .debug)]

def Setting.shown (setting : Setting) : Text :=
  Text.join "/" ((settingWords.filter (·.2 = setting)).map (·.1))

def Setting.takesValue (setting : Setting) : Bool := setting ≠ .help && setting ≠ .debug

end BuildTags.CommandLine
