import BuildTags.Numeral

namespace BuildTags.Regex

inductive Problem
  | danglingEscape
  | badEscape (escape : Text)
  | incompleteEscape (escape : Text)
  | octalTooLarge (escape : Text)
  | undefinedCharacter (name : Text)
  | missing (what : Text)
  | unterminatedName (closing : Text)
  | invalidReference (index : Nat)
  | openReference
  | lookBehindReference
  | unterminatedSet
  | badRange (first last : Text)
  | emptyRepeat
  | nothingToRepeat
  | multipleRepeat
  | unexpectedEnd
  | unknownExtension (extension : Text)
  | badGroupName (name : Text)
  | unknownGroupName (name : Text)
  | badGroupNumber
  | redefinition (name : Text) (index previous : Nat)
  | unterminatedGroup
  | unterminatedComment
  | tooManyBranches
  | misplacedFlags
  | localeFlag
  | incompatibleFlags
  | unknownFlag
  | turnedOnGlobal
  | turnedOffKind
  | turnedOffGlobal
  | turnedOnAndOff
  | unbalanced
  | lookBehindWidth
  | lookBehindTooFar
  | templateLoop (kind : Text)
  deriving DecidableEq, Repr

def Problem.message : Problem → Text
  | .danglingEscape => "bad escape (end of pattern)"
  | .badEscape escape => "bad escape " ++ escape
  | .incompleteEscape escape => "incomplete escape " ++ escape
  | .octalTooLarge escape => "octal escape value " ++ escape ++ " outside of range 0-0o377"
  | .undefinedCharacter name => "undefined character name " ++ Text.quoted name
  | .missing what => "missing " ++ what
  | .unterminatedName closing => "missing " ++ closing ++ ", unterminated name"
  | .invalidReference index => "invalid group reference " ++ Nat.toDigits 10 index
  | .openReference => "cannot refer to an open group"
  | .lookBehindReference => "cannot refer to group defined in the same lookbehind subpattern"
  | .unterminatedSet => "unterminated character set"
  | .badRange first last => "bad character range " ++ first ++ "-" ++ last
  | .emptyRepeat => "min repeat greater than max repeat"
  | .nothingToRepeat => "nothing to repeat"
  | .multipleRepeat => "multiple repeat"
  | .unexpectedEnd => "unexpected end of pattern"
  | .unknownExtension extension => "unknown extension ?" ++ extension
  | .badGroupName name => "bad character in group name " ++ Text.quoted name
  | .unknownGroupName name => "unknown group name " ++ Text.quoted name
  | .badGroupNumber => "bad group number"
  | .redefinition name index previous =>
    "redefinition of group name " ++ Text.quoted name ++ " as group " ++ Nat.toDigits 10 index ++
      "; was group " ++ Nat.toDigits 10 previous
  | .unterminatedGroup => "missing ), unterminated subpattern"
  | .unterminatedComment => "missing ), unterminated comment"
  | .tooManyBranches => "conditional backref with more than two branches"
  | .misplacedFlags => "global flags not at the start of the expression"
  | .localeFlag => "bad inline flags: cannot use 'L' flag with a str pattern"
  | .incompatibleFlags => "bad inline flags: flags 'a', 'u' and 'L' are incompatible"
  | .unknownFlag => "unknown flag"
  | .turnedOnGlobal => "bad inline flags: cannot turn on global flag"
  | .turnedOffKind => "bad inline flags: cannot turn off flags 'a', 'u' and 'L'"
  | .turnedOffGlobal => "bad inline flags: cannot turn off global flag"
  | .turnedOnAndOff => "bad inline flags: flag turned on and off"
  | .unbalanced => "unbalanced parenthesis"
  | .lookBehindWidth => "look-behind requires fixed-width pattern"
  | .lookBehindTooFar => "looks too much behind"
  | .templateLoop kind => "internal: unsupported template operator " ++ kind

structure Place where
  position : Nat
  lineAndColumn : Option (Nat × Nat)
  deriving DecidableEq, Repr

def Place.message (place : Place) : Text :=
  let position := " at position " ++ Nat.toDigits 10 place.position
  match place.lineAndColumn with
  | some (line, column) =>
    position ++ " (line " ++ Nat.toDigits 10 line ++ ", column " ++ Nat.toDigits 10 column ++ ")"
  | none => position

inductive Fault
  | malformed (problem : Problem) (place : Option Place)
  | mixedKinds
  | countTooLarge
  | tooDeep
  | numeral (fault : Numeral.Fault)
  deriving DecidableEq, Repr

def Fault.message : Fault → Text
  | .malformed problem place => problem.message ++ (place.map Place.message).getD []
  | .mixedKinds => "ASCII and UNICODE flags are incompatible"
  | .countTooLarge => "the repetition number is too large"
  | .tooDeep => "maximum recursion depth exceeded"
  | .numeral fault => fault.message

end BuildTags.Regex
