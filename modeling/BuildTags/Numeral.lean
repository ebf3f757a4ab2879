import BuildTags.Text.Blank
import BuildTags.Text.Digit
import BuildTags.Text.Quoted

namespace BuildTags.Numeral

def maxDigits : Nat := 4300

inductive Fault
  | malformed (text : Text)
  | tooLong (digits : Nat)
  | tooLarge
  deriving DecidableEq, Repr

/-- The most characters of a malformed numeral that a message shows, quotes included. -/
def shownLength : Nat := 200

def limitMessage (detail : Text) : Text :=
  "Exceeds the limit (4300 digits) for integer string conversion" ++ detail ++
    "; use sys.set_int_max_str_digits() to increase the limit"

def Fault.message : Fault → Text
  | .malformed text =>
    "invalid literal for int() with base 10: " ++ (Text.quoted text).take shownLength
  | .tooLong digits => limitMessage (": value has " ++ Nat.toDigits 10 digits ++ " digits")
  | .tooLarge => limitMessage []

def digits (n : Int) : Text :=
  if n < 0 then '-' :: Nat.toDigits 10 n.natAbs else Nat.toDigits 10 n.natAbs

def ofDigits (values : List Nat) : Nat := values.foldl (fun n d => n * 10 + d) 0

/-- White space that may stand around a numeral: all but the four separators of ASCII. -/
def isMargin (c : Char) : Bool := Text.isBlank c && !(0x1c ≤ c.toNat && c.toNat ≤ 0x1f)

/-- The digits at the start and what follows them. A low line may stand between two digits; there
is no result if one stands elsewhere in the run. -/
def scan : (afterDigit : Bool) → Text → Option (List Nat × Text)
  | _, [] => some ([], [])
  | afterDigit, c :: text =>
    match Text.digitValue? c with
    | some d => (scan true text).map fun (values, rest) => (d :: values, rest)
    | none =>
      if c = '_' then
        if afterDigit && text.head?.any Text.isDigit then scan false text else none
      else some ([], c :: text)

def sign : Text → Bool × Text
  | '-' :: text => (true, text)
  | '+' :: text => (false, text)
  | text => (false, text)

/-- Reads a whole number in decimal digits of any script, with white space around it, a sign, and
single low lines between digits. A run of too many digits is reported before anything after it. -/
def read (text : Text) : Except Fault Int :=
  let (negative, body) := sign (text.dropWhile isMargin)
  match scan false body with
  | none => .error (.malformed text)
  | some (values, rest) =>
    if maxDigits < values.length then .error (.tooLong values.length)
    else if values = [] ∨ !rest.all isMargin then .error (.malformed text)
    else .ok (if negative then -(ofDigits values : Int) else ofDigits values)

def write (n : Int) : Except Fault Text :=
  if maxDigits < (Nat.toDigits 10 n.natAbs).length then .error .tooLarge else .ok (digits n)

end BuildTags.Numeral
