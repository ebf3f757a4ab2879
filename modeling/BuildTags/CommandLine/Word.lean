import BuildTags.CommandLine.Option
import BuildTags.Text.Digit
import BuildTags.Text.Quoted

namespace BuildTags.CommandLine

inductive Misuse
  | ambiguous (word : Text) (candidates : List Text)
  | valueMissing (setting : Setting)
  | valueIgnored (setting : Setting) (value : Text)
  | unknownCommand (word : Text)
  | unknownSource (word : Text)
  | unrecognized (words : List Text)
  | variantMissing
  deriving DecidableEq, Repr

def notAChoice (place value : Text) (choices : List Text) : Text :=
  "argument " ++ place ++ ": invalid choice: " ++ Text.quoted value ++ " (choose from " ++
    Text.join ", " (choices.map Text.quoted) ++ ")"

def Misuse.message : Misuse → Text
  | .ambiguous word candidates =>
    "ambiguous option: " ++ word ++ " could match " ++ Text.join ", " candidates
  | .valueMissing setting => "argument " ++ setting.shown ++ ": expected one argument"
  | .valueIgnored setting value =>
    "argument " ++ setting.shown ++ ": ignored explicit argument " ++ Text.quoted value
  | .unknownCommand word => notAChoice "command" word (Command.named.map (·.1))
  | .unknownSource word => notAChoice "--source" word sourceNames
  | .unrecognized words => "unrecognized arguments: " ++ Text.join " " words
  | .variantMissing => "a build variant is required (--variant or INPUT_VARIANT)"

/-- The part that a word plays. A setting may bring its value: after an equals sign, or directly
after its letter. -/
inductive Role
  | plain
  | stopMark
  | unknown
  | setting (setting : Setting) (value : Option Text)
  | letter (value : Text) (equals : Bool)
  deriving DecidableEq, Repr

def atEquals (word : Text) : Text × Option Text :=
  match Text.cutFirst? "=" word with
  | some (name, value) => (name, some value)
  | none => (word, none)

def settingOf? (word : Text) : Option Setting := (settingWords.find? (·.1 = word)).map (·.2)

/-- Whether a word looks like a negative number. A line feed may stand after the digits. -/
def isNegativeNumber (word : Text) : Bool :=
  match word with
  | '-' :: body =>
    let body := if body.getLast? = some '\n' then body.dropLast else body
    match body.splitOn '.' with
    | [digits] => digits ≠ [] && digits.all Text.isDigit
    | [whole, places] => whole.all Text.isDigit && places ≠ [] && places.all Text.isDigit
    | _ => false
  | _ => false

/-- A word that begins like a setting and names none: it counts as plain if it looks like a number
or holds a blank. -/
def strayRole (word : Text) : Role :=
  if isNegativeNumber word || ' ' ∈ word then .plain else .unknown

/-- The part of a word before the one that ends the settings. A setting may be written with its
first letters, as long as they fit one setting only. -/
def roleOf (word : Text) : Except Misuse Role :=
  match word with
  | [] | ['-'] => .ok .plain
  | '-' :: second :: _ =>
    let (name, value) := atEquals word
    match settingOf? word, settingOf? name with
    | some setting, _ => .ok (.setting setting none)
    | none, some setting =>
      if second = '-' then .ok (.setting setting value)
      else .ok (.letter (value.getD []) true)
    | none, none =>
      if second = '-' then
        match settingWords.filter fun (other, _) => Text.startsWith name other with
        | [] => .ok (strayRole word)
        | [(_, setting)] => .ok (.setting setting value)
        | several => .error (.ambiguous word (several.map (·.1)))
      else if second = 'h' then .ok (.letter (word.drop 2) false)
      else .ok (strayRole word)
  | _ => .ok .plain

/-- The words with their parts; after two dashes alone every word is plain. -/
def roles : List Text → Except Misuse (List (Text × Role))
  | [] => .ok []
  | word :: words =>
    if word = "--" then .ok ((word, .stopMark) :: words.map (·, .plain))
    else do
      let role ← roleOf word
      let rest ← roles words
      pure ((word, role) :: rest)

end BuildTags.CommandLine
