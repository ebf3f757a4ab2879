import BuildTags.Pattern.Fault
import BuildTags.Pattern.Token
import BuildTags.Text.Blank
import BuildTags.Text.LetterCase

namespace BuildTags.Pattern

structure Descriptor where
  name : Text
  argument : Text
  deriving DecidableEq, Repr

namespace Descriptor

def isNameChar (c : Char) : Bool := c.isAlpha || c = '_'

/-- What follows a leading `it.`, white space around the dot included; a text without it is
kept. -/
def withoutSubject (text : Text) : Text :=
  match Text.after? "it" text with
  | some rest =>
    match Text.trimStart rest with
    | '.' :: rest => Text.trimStart rest
    | _ => text
  | none => text

/-- Reads a descriptor with white space around its parts. The argument reaches from the first
bracket to the last one. -/
def read? (text : Text) : Option Descriptor :=
  let body := withoutSubject (Text.trimStart text)
  let name := body.takeWhile isNameChar
  match name, Text.trimStart (body.dropWhile isNameChar) with
  | [], _ => none
  | name, '(' :: rest =>
    match (Text.trimEnd rest).reverse with
    | ')' :: argument => some ⟨name, argument.reverse⟩
    | _ => none
  | _, _ => none

/-- The argument without white space at its ends, and then without one pair of equal quotes around
it. -/
def withoutQuotes (argument : Text) : Text :=
  let argument := Text.trim argument
  match argument with
  | first :: rest =>
    if (first = '\x27' ∨ first = '"') ∧ rest.getLast? = some first then rest.dropLast else argument
  | [] => []

def plainName (name : Text) : Text := Text.lowerAscii (name.filter (· ≠ '_'))

end Descriptor

def tokensWithText : List (Text × (Text → Token)) :=
  [("literal", .literal), ("separator", .separator), ("optionalseparator", .optionalSeparator)]

def tokensWithoutText : List (Text × Token) :=
  [("anybeforedot", .anyBeforeDot), ("buildversion", .buildVersion),
   ("buildvariantname", .buildVariantName), ("anyoptionalsymbols", .anyOptionalSymbols)]

def Token.read (descriptor : Text) : Except Fault Token :=
  match Descriptor.read? descriptor with
  | none => .error (.invalidDescriptor descriptor)
  | some form =>
    let name := Descriptor.plainName form.name
    let argument := Descriptor.withoutQuotes form.argument
    match tokensWithText.find? (·.1 = name) with
    | some (_, token) =>
      if argument = [] then .error (.textMissing descriptor) else .ok (token argument)
    | none =>
      match tokensWithoutText.find? (·.1 = name) with
      | some (_, token) =>
        if argument = [] then .ok token else .error (.argumentUnexpected descriptor)
      | none => .error (.unknownToken form.name descriptor)

def readTokens : List Text → Except Fault (List Token)
  | [] => .ok []
  | descriptor :: descriptors => do
    let token ← Token.read descriptor
    let tokens ← readTokens descriptors
    pure (token :: tokens)

end BuildTags.Pattern
