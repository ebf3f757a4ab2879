import BuildTags.Text.Basic

namespace BuildTags.Pattern

inductive Token
  | literal (text : Text)
  | separator (text : Text)
  | optionalSeparator (text : Text)
  | anyBeforeDot
  | buildVersion
  | buildVariantName
  | anyOptionalSymbols
  deriving DecidableEq, Repr

def Token.write : Token → Text
  | .literal text => "literal(" ++ text ++ ")"
  | .separator text => "separator(" ++ text ++ ")"
  | .optionalSeparator text => "optionalSeparator(" ++ text ++ ")"
  | .anyBeforeDot => "anyBeforeDot()"
  | .buildVersion => "buildVersion()"
  | .buildVariantName => "buildVariantName()"
  | .anyOptionalSymbols => "anyOptionalSymbols()"

def writeTokens (tokens : List Token) : Text := Text.join ", " (tokens.map Token.write)

/-- The tokens of names such as `v<version>.<number>-<variant>`, where `-` and anything else may
follow. -/
def defaultTokens : List Token :=
  [.anyBeforeDot, .buildVersion, .separator "-", .buildVariantName, .optionalSeparator "-",
   .anyOptionalSymbols]

end BuildTags.Pattern
