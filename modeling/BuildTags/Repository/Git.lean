import BuildTags.Repository.Source
import BuildTags.Text.Blank
import BuildTags.Text.Line

namespace BuildTags.Repository

/-- How a command ended: with a code and two outputs, as it printed them or as they were handed over,
or it could not be started. -/
inductive Ending
  | printed (code : Int) (output errors : Text)
  | exited (code : Int) (output errors : Text)
  | notStarted (reason : Text)
  deriving DecidableEq, Repr

/-- The code and the outputs that are handed over, or the reason why there are none. What was printed
is read as text, in which every line end is a line feed. -/
def Ending.handedOver : Ending → Except Text (Int × Text × Text)
  | .printed code output errors =>
    .ok (code, Text.uniformLines output, Text.uniformLines errors)
  | .exited code output errors => .ok (code, output, errors)
  | .notStarted reason => .error reason

structure GitAnswers where
  tags : Ending
  log : Ending

namespace Git

def fieldMark : Char := '\x1f'

def recordMark : Char := '\x1e'

def refStart : Text := "refs/tags/"

def tagLayout : Text :=
  "%(refname)\x1f%(objectname)\x1f%(*objectname)\x1f%(contents)\x1e"

def commitLayout : Text := "%H\x1f%B\x1e"

def tagArguments : List Text :=
  ["for-each-ref", "--sort=creatordate", "--format=" ++ tagLayout, "refs/tags"]

def revision (after : Option Text) (upTo : Text) : Text :=
  match after with
  | none | some [] => upTo
  | some after => after ++ ".." ++ upTo

def logArguments (after : Option Text) (upTo : Text) : List Text :=
  ["log", "--reverse", "--format=" ++ commitLayout, revision after upTo]

def firstNonempty : List Text → Text
  | [] => []
  | [last] => last
  | text :: texts => if text = [] then firstNonempty texts else text

def run (folder : Text) (arguments : List Text) (ending : Ending) : Traced Text := do
  let words : List Text := "git" :: arguments
  let line := Text.join " " words
  Traced.note .debug ("Executing git command: " ++ line)
  Traced.request (.command folder words)
  match ending.handedOver with
  | .error reason => Traced.fail (.repository (.notStarted reason))
  | .ok (code, output, errors) =>
    if code = 0 then pure output
    else do
      let errors := Text.trim errors
      Traced.note .error ("Git command failed: " ++ line ++ ": " ++ errors)
      Traced.fail (.repository (.commandFailed
        (firstNonempty [errors, Text.trim output, "git exited with " ++ Numeral.digits code])))

/-- The records of an output, each as its fields. Blank records are left out, and line feeds before
a record do not belong to it. -/
def splitRecords (output : Text) : List (List Text) :=
  ((output.splitOn recordMark).filter fun record => !Text.blank record).map fun record =>
    (record.dropWhile (· = '\n')).splitOn fieldMark

def field (fields : List Text) (place : Nat) : Text := fields[place]?.getD []

/-- The tag of a record. An annotated one points to the object behind it and has a message. -/
def tagOf (order : Nat) (fields : List Text) : Tag :=
  let peeled := field fields 2
  { name := Text.without refStart (field fields 0)
    sha := if peeled = [] then field fields 1 else peeled
    message := if peeled = [] then [] else Text.trim (field fields 3)
    order }

def tagsOf (output : Text) : List Tag := (splitRecords output).mapIdx tagOf

def commitOf (fields : List Text) : Commit where
  sha := Text.trim (field fields 0)
  message := Text.trim (field fields 1)

def commitsOf (output : Text) : List Commit := (splitRecords output).map commitOf

end Git

def gitSource (folder : Text) (answers : GitAnswers) : Source where
  allTags := do
    let output ← Git.run folder Git.tagArguments answers.tags
    let tags := Git.tagsOf output
    Traced.note .debug
      ("Listed " ++ Nat.toDigits 10 tags.length ++ " tags in " ++ folder)
    pure tags
  commitsBetween after upTo := do
    let output ← Git.run folder (Git.logArguments after upTo) answers.log
    pure (Git.commitsOf output)

end BuildTags.Repository
