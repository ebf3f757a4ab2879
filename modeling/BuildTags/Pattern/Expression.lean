import BuildTags.Pattern.Token

namespace BuildTags.Pattern

def specialChars : Text := "()[]\x7b\x7d?*+-|^$\\.&~# \t\n\r\x0b\x0c"

def escape (text : Text) : Text :=
  text.flatMap fun c => if c ∈ specialChars then ['\\', c] else [c]

def Token.fragment (variant : Text) : Token → Text
  | .literal text | .separator text => escape text
  | .optionalSeparator text => "(?:" ++ escape text ++ ")?"
  | .anyBeforeDot => "[^.]*?"
  | .buildVersion => "(?P<version>\\d+(?:\\.\\d+)*)"
  | .buildVariantName => escape variant ++ "(?P<build_number>\\d+)?"
  | .anyOptionalSymbols => "(?:.*)?"

def expressionOf (variant : Text) (tokens : List Token) : Text :=
  tokens.flatMap (Token.fragment variant)

/-- The variant name of an expression that is shown for all variants. -/
def placeholder : Text := "%s"

end BuildTags.Pattern
