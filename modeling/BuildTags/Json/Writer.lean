import BuildTags.Json.Value
import BuildTags.Numeral

namespace BuildTags.Json

def units (n : Nat) : List Nat :=
  if n < 0x10000 then [n]
  else [0xd800 + (n - 0x10000) / 0x400, 0xdc00 + (n - 0x10000) % 0x400]

def writeChar (c : Char) : Text :=
  if c = '"' ∨ c = '\\' then ['\\', c]
  else if c = '\n' then "\\n"
  else if c = '\r' then "\\r"
  else if c = '\t' then "\\t"
  else if c = '\x08' then "\\b"
  else if c = '\x0c' then "\\f"
  else if 0x20 ≤ c.toNat ∧ c.toNat < 0x7f then [c]
  else (units c.toNat).flatMap fun unit => '\\' :: 'u' :: Text.hex 4 unit

def writeText (text : Text) : Text := '"' :: text.flatMap writeChar ++ ['"']

mutual

/-- The document on one line, a blank after each comma and colon. It fails on a whole number with
too many digits. -/
def write : Value → Except Numeral.Fault Text
  | .null => .ok "null"
  | .bool value => .ok (if value then "true" else "false")
  | .whole value => Numeral.write value
  | .fraction value => .ok value.write
  | .text value => .ok (writeText value)
  | .list items => do
    let written ← writeItems items
    pure ('[' :: Text.join ", " written ++ [']'])
  | .object members => do
    let written ← writeMembers members
    pure ('{' :: Text.join ", " written ++ ['}'])

def writeItems : List Value → Except Numeral.Fault (List Text)
  | [] => .ok []
  | item :: items => do
    let first ← write item
    let rest ← writeItems items
    pure (first :: rest)

def writeMembers : List (Text × Value) → Except Numeral.Fault (List Text)
  | [] => .ok []
  | (name, value) :: members => do
    let first ← write value
    let rest ← writeMembers members
    pure ((writeText name ++ ": " ++ first) :: rest)

end

end BuildTags.Json
