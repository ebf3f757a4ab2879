import BuildTags.Text.Printable

namespace BuildTags.Text

def hex (width n : Nat) : Text :=
  let digits := Nat.toDigits 16 n
  List.replicate (width - digits.length) '0' ++ digits

/-- Single quotes, or double ones where the text holds single quotes only. -/
def quoteMark (text : Text) : Char :=
  if '\x27' ∈ text ∧ '"' ∉ text then '"' else '\x27'

/-- A character inside the given quotes: the quote, the backslash and everything that is not
printable is escaped. -/
def quoteChar (mark c : Char) : Text :=
  if c = mark ∨ c = '\\' then ['\\', c]
  else if c = '\n' then "\\n"
  else if c = '\r' then "\\r"
  else if c = '\t' then "\\t"
  else if isPrintable c then [c]
  else if c.toNat < 0x100 then '\\' :: 'x' :: hex 2 c.toNat
  else if c.toNat < 0x10000 then '\\' :: 'u' :: hex 4 c.toNat
  else '\\' :: 'U' :: hex 8 c.toNat

def quoted (text : Text) : Text :=
  let mark := quoteMark text
  mark :: text.flatMap (quoteChar mark) ++ [mark]

def quotedList (pieces : List Text) : Text :=
  '[' :: join ", " (pieces.map quoted) ++ [']']

end BuildTags.Text
