import BuildTags.Json.Value
import BuildTags.Numeral

namespace BuildTags.Json

inductive Complaint
  | byteOrderMark
  | extraData
  | value
  | name
  | colon
  | comma
  | controlCharacter
  | unterminated
  | escape
  | unicodeEscape
  deriving DecidableEq, Repr

def Complaint.message : Complaint → Text
  | .byteOrderMark => "Unexpected UTF-8 BOM (decode using utf-8-sig)"
  | .extraData => "Extra data"
  | .value => "Expecting value"
  | .name => "Expecting property name enclosed in double quotes"
  | .colon => "Expecting ':' delimiter"
  | .comma => "Expecting ',' delimiter"
  | .controlCharacter => "Invalid control character at"
  | .unterminated => "Unterminated string starting at"
  | .escape => "Invalid \\escape"
  | .unicodeEscape => "Invalid \\uXXXX escape"

inductive Bound
  | unpaired
  | depth
  deriving DecidableEq, Repr

def Bound.message : Bound → Text
  | .unpaired => "surrogates not allowed"
  | .depth => "maximum recursion depth exceeded"

/-- Why reading stops: a complaint with the number of characters left, a numeral, or half of a
surrogate pair. -/
inductive Stop
  | complaint (complaint : Complaint) (left : Nat)
  | numeral (fault : Numeral.Fault)
  | unpaired
  deriving DecidableEq, Repr

def complain {α : Type} (complaint : Complaint) (text : Text) : Except Stop α :=
  .error (.complaint complaint text.length)

def isSpace (c : Char) : Bool := c = ' ' || c = '\t' || c = '\n' || c = '\r'

def skip (text : Text) : Text := text.dropWhile isSpace

def hexValue? (c : Char) : Option Nat :=
  if '0' ≤ c ∧ c ≤ '9' then some (c.toNat - '0'.toNat)
  else if 'a' ≤ c ∧ c ≤ 'f' then some (c.toNat - 'a'.toNat + 10)
  else if 'A' ≤ c ∧ c ≤ 'F' then some (c.toNat - 'A'.toNat + 10)
  else none

def hexNumber? (text : Text) : Option Nat :=
  text.foldlM (fun n c => (hexValue? c).map (n * 16 + ·)) 0

def escaped? : Char → Option Char
  | '"' => some '"'
  | '\\' => some '\\'
  | '/' => some '/'
  | 'b' => some '\x08'
  | 'f' => some '\x0c'
  | 'n' => some '\n'
  | 'r' => some '\r'
  | 't' => some '\t'
  | _ => none

/-- The code units of a string up to its closing quote, and what follows it. A string that does not
end is reported where it began. -/
def stringUnits (opening : Text) : Text → Except Stop (List Nat × Text)
  | [] => complain .unterminated opening
  | '"' :: text => .ok ([], text)
  | ['\\'] => complain .unterminated opening
  | '\\' :: 'u' :: a :: b :: c :: d :: e :: text =>
    match hexNumber? [a, b, c, d] with
    | some unit => do
      let (units, rest) ← stringUnits opening (e :: text)
      pure (unit :: units, rest)
    | none => complain .unicodeEscape ('u' :: a :: b :: c :: d :: e :: text)
  | '\\' :: 'u' :: text => complain .unicodeEscape ('u' :: text)
  | '\\' :: c :: text =>
    match escaped? c with
    | some c => do
      let (units, rest) ← stringUnits opening text
      pure (c.toNat :: units, rest)
    | none => complain .escape ('\\' :: c :: text)
  | c :: text =>
    if c.toNat < 0x20 then complain .controlCharacter (c :: text)
    else do
      let (units, rest) ← stringUnits opening text
      pure (c.toNat :: units, rest)

def isHigh (unit : Nat) : Bool := 0xd800 ≤ unit && unit < 0xdc00

def isLow (unit : Nat) : Bool := 0xdc00 ≤ unit && unit < 0xe000

def ofPair (high low : Nat) : Char :=
  Char.ofNat (0x10000 + (high - 0xd800) * 0x400 + (low - 0xdc00))

/-- The characters of code units, if all surrogates stand in pairs. A pair is one character. -/
def ofUnits? : List Nat → Option Text
  | [] => some []
  | [unit] => if isHigh unit || isLow unit then none else some [Char.ofNat unit]
  | unit :: next :: units =>
    if isHigh unit && isLow next then (ofUnits? units).map (ofPair unit next :: ·)
    else if isHigh unit || isLow unit then none
    else (ofUnits? (next :: units)).map (Char.ofNat unit :: ·)

def readText (opening text : Text) : Except Stop (Text × Text) := do
  let (units, rest) ← stringUnits opening text
  match ofUnits? units with
  | some text => pure (text, rest)
  | none => throw .unpaired

def isAsciiDigit (c : Char) : Bool := '0' ≤ c && c ≤ '9'

def wholePart? : Text → Option (Text × Text)
  | '0' :: text => some (['0'], text)
  | c :: text =>
    if isAsciiDigit c then
      some (c :: text.takeWhile isAsciiDigit, text.dropWhile isAsciiDigit)
    else none
  | [] => none

def fractionPart : Text → Text × Text
  | '.' :: text =>
    if text.head?.any isAsciiDigit then
      (text.takeWhile isAsciiDigit, text.dropWhile isAsciiDigit)
    else ([], '.' :: text)
  | text => ([], text)

def exponentPart (text : Text) : Option (Bool × Text) × Text :=
  match text with
  | c :: body =>
    if c = 'e' ∨ c = 'E' then
      let (negative, digits) := Numeral.sign body
      if digits.head?.any isAsciiDigit then
        (some (negative, digits.takeWhile isAsciiDigit), digits.dropWhile isAsciiDigit)
      else (none, text)
    else (none, text)
  | [] => (none, text)

def asciiNumber (digits : Text) : Nat := Numeral.ofDigits (digits.map fun c => c.toNat - '0'.toNat)

def readNumber (longest : Option Nat) (text : Text) : Except Stop (Value × Text) :=
  let negative := text.head? = some '-'
  match wholePart? (if negative then text.drop 1 else text) with
  | none => complain .value text
  | some (digits, rest) =>
    let (places, rest) := fractionPart rest
    let (exponent, rest) := exponentPart rest
    if places = [] ∧ exponent = none then
      if longest.any (· < digits.length) then .error (.numeral (.tooLong digits.length))
      else
        let n := (asciiNumber digits : Int)
        .ok (.whole (if negative then -n else n), rest)
    else
      let power : Int := match exponent with
        | some (true, tens) => -(asciiNumber tens : Int)
        | some (false, tens) => asciiNumber tens
        | none => 0
      .ok (.fraction (.ofDecimal negative (asciiNumber (digits ++ places)) (power - places.length)),
        rest)

def words : List (Text × Value) :=
  [("null", .null), ("true", .bool true), ("false", .bool false), ("NaN", .fraction .undefined),
   ("Infinity", .fraction (.infinite false)), ("-Infinity", .fraction (.infinite true))]

def readWord? (text : Text) : Option (Value × Text) :=
  words.findSome? fun (word, value) => (Text.after? word text).map (value, ·)

mutual

/-- Reads one value at the start of the text; `fuel` bounds the number of nested steps. -/
def readValue (longest : Option Nat) : (fuel : Nat) → Text → Except Stop (Value × Text)
  | 0, text => complain .value text
  | fuel + 1, text =>
    match text with
    | '"' :: body => do
      let (value, rest) ← readText text body
      pure (.text value, rest)
    | '{' :: body =>
      match skip body with
      | '}' :: rest => .ok (.object [], rest)
      | body => do
        let (members, rest) ← readMembers longest fuel [] body
        pure (.object members, rest)
    | '[' :: body =>
      match skip body with
      | ']' :: rest => .ok (.list [], rest)
      | body => do
        let (items, rest) ← readItems longest fuel body
        pure (.list items, rest)
    | _ =>
      match readWord? text with
      | some found => .ok found
      | none => readNumber longest text

def readMembers (longest : Option Nat) :
    (fuel : Nat) → List (Text × Value) → Text → Except Stop (List (Text × Value) × Text)
  | 0, _, text => complain .value text
  | fuel + 1, members, text =>
    match text with
    | '"' :: body => do
      let (name, rest) ← readText text body
      match skip rest with
      | ':' :: rest => do
        let (value, rest) ← readValue longest fuel (skip rest)
        let members := put name value members
        match skip rest with
        | '}' :: rest => pure (members, rest)
        | ',' :: rest => readMembers longest fuel members (skip rest)
        | rest => complain .comma rest
      | rest => complain .colon rest
    | _ => complain .name text

def readItems (longest : Option Nat) : (fuel : Nat) → Text → Except Stop (List Value × Text)
  | 0, text => complain .value text
  | fuel + 1, text => do
    let (item, rest) ← readValue longest fuel text
    match skip rest with
    | ']' :: rest => pure ([item], rest)
    | ',' :: rest => do
      let (items, rest) ← readItems longest fuel (skip rest)
      pure (item :: items, rest)
    | rest => complain .comma rest

end

def readDocument (longest : Option Nat) (text : Text) : Except Stop Value :=
  if text.head? = some '\ufeff' then complain .byteOrderMark text
  else do
    let (value, rest) ← readValue longest (2 * text.length + 2) (skip text)
    match skip rest with
    | [] => pure value
    | rest => complain .extraData rest

inductive Fault
  | malformed (complaint : Complaint) (position line column : Nat)
  | numeral (fault : Numeral.Fault)
  | beyond (bound : Bound)
  deriving DecidableEq, Repr

def Fault.message : Fault → Text
  | .malformed complaint position line column =>
    complaint.message ++ ": line " ++ Nat.toDigits 10 line ++ " column " ++
      Nat.toDigits 10 column ++ " (char " ++ Nat.toDigits 10 position ++ ")"
  | .numeral fault => fault.message
  | .beyond bound => bound.message

/-- The line and the column of a position, both counted from one; lines end at line feeds. -/
def place (text : Text) (position : Nat) : Nat × Nat :=
  let before := text.take position
  (before.count '\n' + 1, (before.reverse.takeWhile (· ≠ '\n')).length + 1)

/-- Reads a document whose whole numbers have at most `longest` digits, if that is given. The texts
that are nested too deeply are those of `deep`. -/
def read (longest : Option Nat) (text : Text) (deep : Text → Bool := fun _ => false) :
    Except Fault Value :=
  if deep text then .error (.beyond .depth)
  else match readDocument longest text with
    | .ok value => .ok value
    | .error (.numeral fault) => .error (.numeral fault)
    | .error .unpaired => .error (.beyond .unpaired)
    | .error (.complaint complaint left) =>
      let position := text.length - left
      let (line, column) := place text position
      .error (.malformed complaint position line column)

end BuildTags.Json
