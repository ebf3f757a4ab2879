import BuildTags.Json.Reader
import BuildTags.Regex.Fault

namespace BuildTags.Configuration

inductive Kind
  | text
  | flag
  | whole
  | list
  deriving DecidableEq, Repr

def Kind.name : Kind → Text
  | .text => "str"
  | .flag => "bool"
  | .whole => "int"
  | .list => "list"

inductive Fault
  | unreadable (path reason : Text)
  | malformed (path : Text) (fault : Json.Fault)
  | beyond (bound : Json.Bound)
  | notAnObject
  | sectionNotAnObject (place : Text)
  | wrongKind (place : Text) (kind : Kind)
  | notOneOf (place : Text) (names : List Text)
  | notTexts (place : Text)
  | badIssuePattern (fault : Regex.Fault)
  | unknownStrategy (name : Text)
  deriving DecidableEq, Repr

def Fault.message : Fault → Text
  | .unreadable path reason => "Configuration file " ++ path ++ " cannot be read: " ++ reason
  | .malformed path fault =>
    "Configuration file " ++ path ++ " is not valid JSON: " ++ fault.message
  | .beyond bound => bound.message
  | .notAnObject => "Configuration must be a JSON object"
  | .sectionNotAnObject place => "'" ++ place ++ "' must be an object"
  | .wrongKind place kind => "'" ++ place ++ "' must be " ++ kind.name
  | .notOneOf place names => "'" ++ place ++ "' must be one of " ++ Text.quotedList names
  | .notTexts place => "'" ++ place ++ "' must be a list of strings"
  | .badIssuePattern fault =>
    "'changelog.issueNumberPattern' is not a valid regex: " ++ fault.message
  | .unknownStrategy name => "Unknown version strategy " ++ Text.quoted name

end BuildTags.Configuration
