import BuildTags.Configuration.Basic
import BuildTags.Failure
import BuildTags.Json.Value
import BuildTags.Pattern.Descriptor
import BuildTags.Version.Strategy

namespace BuildTags.Configuration

abbrev Members := List (Text × Json.Value)

def dotted (place name : Text) : Text := place ++ '.' :: name

section

variable (place : Text) (members : Members) (name : Text)

def textOr (default : Text) : Except Fault Text :=
  match Json.member? name members with
  | none => .ok default
  | some (.text value) => .ok value
  | some _ => .error (.wrongKind (dotted place name) .text)

def flagOrTrue : Except Fault Bool :=
  match Json.member? name members with
  | none => .ok true
  | some (.bool value) => .ok value
  | some _ => .error (.wrongKind (dotted place name) .flag)

def text? : Except Fault (Option Text) :=
  match Json.member? name members with
  | none | some .null => .ok none
  | some (.text value) => .ok (some value)
  | some _ => .error (.wrongKind (dotted place name) .text)

def whole? : Except Fault (Option Int) :=
  match Json.member? name members with
  | none | some .null => .ok none
  | some (.whole value) => .ok (some value)
  | some _ => .error (.wrongKind (dotted place name) .whole)

def list? : Except Fault (Option (List Json.Value)) :=
  match Json.member? name members with
  | none | some .null => .ok none
  | some (.list items) => .ok (some items)
  | some _ => .error (.wrongKind (dotted place name) .list)

def nameOr (names : List Text) (default : Text) : Except Fault Text := do
  let value ← textOr place members name default
  if names.any (· = value) then .ok value else .error (.notOneOf (dotted place name) names)

end

def texts? : List Json.Value → Option (List Text)
  | [] => some []
  | .text value :: items => (texts? items).map (value :: ·)
  | _ :: _ => none

def tokens? (place : Text) (members : Members) (name : Text) :
    Except Failure (Option (List Pattern.Token)) := do
  match ← (list? place members name).mapError Failure.configuration with
  | none => pure none
  | some items =>
    match texts? items with
    | none => throw (.configuration (.notTexts (dotted place name)))
    | some descriptors => do
      let tokens ← Pattern.readTokens descriptors
      pure (some tokens)

instance : MonadLift (Except Fault) (Except Failure) := ⟨Except.mapError .configuration⟩

/-- The settings of a variant. Known names are checked first, then the pattern, then the rest. -/
def Output.ofJson (name : Text) : Json.Value → Except Failure Output
  | .object members => do
    let place := dotted "outputs" name
    let codeStrategy ← nameOr place members "versionCodeStrategy"
      (Version.CodeStrategy.named.map (·.1)) "build_number"
    let nameStrategy ← nameOr place members "versionNameStrategy"
      (Version.NameStrategy.named.map (·.1)) "tag_name"
    let tokens ← tokens? place members "buildTagPatternBuilderFunctions"
    let fromTag ← flagOrTrue place members "useVersionsFromTag"
    let stubFallback ← flagOrTrue place members "useStubsForTagAsFallback"
    let defaultsFallback ← flagOrTrue place members "useDefaultsForVersionsAsFallback"
    let defaultCode ← whole? place members "versionCode"
    let defaultName ← text? place members "versionName"
    let baseFileName ← text? place members "baseFileName"
    pure {
      name, baseFileName, tokens
      version := { fromTag, stubFallback, defaultsFallback, defaultCode, defaultName,
                   codeStrategy, nameStrategy } }
  | _ => .error (.configuration (.sectionNotAnObject (dotted "outputs" name)))

def outputsOfJson : Members → Except Failure (List (Text × Output))
  | [] => .ok []
  | (name, value) :: members => do
    let output ← Output.ofJson name value
    let outputs ← outputsOfJson members
    pure ((name, output) :: outputs)

def issueFailure : Regex.Fault → Failure
  | .malformed problem place => .configuration (.badIssuePattern (.malformed problem place))
  | fault => .regex fault

/-- The settings of the changelog. An empty key counts as none. -/
def changelogOfJson (value : Json.Value) (host : Host := {}) :
    Except Failure Changelog.Settings :=
  match value with
  | .object members => do
    let place : Text := "changelog"
    let source ← textOr place members "issueNumberPattern"
      Changelog.IssuePattern.keyAndNumber.source
    let issues ← (Changelog.IssuePattern.read source host).mapError issueFailure
    let linkFormat ← nameOr place members "linkFormat"
      (Changelog.LinkFormat.named.map (·.1)) "markdown"
    let urlStart ← textOr place members "issueUrlPrefix" []
    let key ← text? place members "commitMessageKey"
    pure { issues, urlStart, linkFormat, key := key.filter (· ≠ []) }
  | _ => .error (.configuration (.sectionNotAnObject "changelog"))

def ofJson (value : Json.Value) (host : Host := {}) : Except Failure Configuration :=
  match value with
  | .object members => do
    let outputs ← match Json.member? "outputs" members with
      | none => pure []
      | some (.object outputs) => outputsOfJson outputs
      | some _ => throw (.configuration (.sectionNotAnObject "outputs"))
    match Json.member? "changelog" members with
    | none => pure { outputs }
    | some changelog => do pure { outputs, changelog := ← changelogOfJson changelog host }
  | _ => .error (.configuration .notAnObject)

def read (path text : Text) (host : Host := {}) : Except Failure Configuration :=
  match Json.read (some Numeral.maxDigits) text host.deepDocument with
  | .error (.numeral fault) => .error (.numeral fault)
  | .error (.beyond bound) => .error (.configuration (.beyond bound))
  | .error fault => .error (.configuration (.malformed path fault))
  | .ok value => ofJson value host

end BuildTags.Configuration
