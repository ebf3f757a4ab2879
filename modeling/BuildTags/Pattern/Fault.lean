import BuildTags.Text.Basic

namespace BuildTags.Pattern

inductive Fault
  | invalidDescriptor (descriptor : Text)
  | textMissing (descriptor : Text)
  | argumentUnexpected (descriptor : Text)
  | unknownToken (name descriptor : Text)
  | emptyVariant
  | versionCount (count : Nat)
  | variantCount (count : Nat)
  deriving DecidableEq, Repr

def Fault.message : Fault → Text
  | .invalidDescriptor descriptor => "Invalid pattern token descriptor '" ++ descriptor ++ "'"
  | .textMissing descriptor => "Token '" ++ descriptor ++ "' requires non-empty text"
  | .argumentUnexpected descriptor => "Token '" ++ descriptor ++ "' does not take an argument"
  | .unknownToken name descriptor =>
    "Unknown pattern token '" ++ name ++ "' in '" ++ descriptor ++ "'"
  | .emptyVariant => "Build variant name must not be empty"
  | .versionCount count =>
    "Tag pattern must contain exactly one buildVersion() token, found " ++ Nat.toDigits 10 count
  | .variantCount count =>
    "Tag pattern must contain exactly one buildVariantName() token, found " ++
      Nat.toDigits 10 count

end BuildTags.Pattern
