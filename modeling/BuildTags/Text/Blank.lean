import BuildTags.Text.Basic
import BuildTags.Text.Ranges

namespace BuildTags.Text

/-- Borders of the code points that count as white space: the Unicode ones and the four
separators from `\x1c` to `\x1f`. -/
def blankBorders : List Nat :=
  [0x9, 0xe, 0x1c, 0x21, 0x85, 0x86, 0xa0, 0xa1, 0x1680, 0x1681, 0x2000, 0x200b, 0x2028, 0x202a,
   0x202f, 0x2030, 0x205f, 0x2060, 0x3000, 0x3001]

def isBlank (c : Char) : Bool := within c.toNat false blankBorders

def blank (text : Text) : Bool := text.all isBlank

def trimStart (text : Text) : Text := text.dropWhile isBlank

def trimEnd (text : Text) : Text := (text.reverse.dropWhile isBlank).reverse

def trim (text : Text) : Text := trimEnd (trimStart text)

end BuildTags.Text
