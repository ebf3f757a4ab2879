import BuildTags.Pattern.Token
import BuildTags.Text.Digit

namespace BuildTags.Pattern

inductive Piece
  | plain (text : Text)
  | version (text : Text)
  | variant (name digits : Text)
  deriving DecidableEq, Repr

def Piece.text : Piece → Text
  | .plain text => text
  | .version text => text
  | .variant name digits => name ++ digits

abbrev Cut := List Piece

def Cut.text (cut : Cut) : Text := cut.flatMap Piece.text

section

variable {α : Type} (next : Text → Option α)

def takeMost (inClass : Char → Bool) : Text → Option (Text × α)
  | [] => (next []).map ([], ·)
  | c :: text =>
    if inClass c then
      match takeMost inClass text with
      | some (taken, a) => some (c :: taken, a)
      | none => (next (c :: text)).map ([], ·)
    else (next (c :: text)).map ([], ·)

def takeLeast (inClass : Char → Bool) : Text → Option (Text × α)
  | [] => (next []).map ([], ·)
  | c :: text =>
    match next (c :: text) with
    | some a => some ([], a)
    | none =>
      if inClass c then (takeLeast inClass text).map fun (taken, a) => (c :: taken, a) else none

def takeGroups : Text → Option (Text × α)
  | [] => (next []).map ([], ·)
  | '.' :: c :: text =>
    if Text.isDigit c then
      match takeGroups text with
      | some (taken, a) => some ('.' :: c :: taken, a)
      | none => (next ('.' :: c :: text)).map ([], ·)
    else (next ('.' :: c :: text)).map ([], ·)
  | c :: text =>
    if Text.isDigit c then
      match takeGroups text with
      | some (taken, a) => some (c :: taken, a)
      | none => (next (c :: text)).map ([], ·)
    else (next (c :: text)).map ([], ·)

def takeVersion : Text → Option (Text × α)
  | [] => none
  | c :: text =>
    if Text.isDigit c then (takeGroups next text).map fun (taken, a) => (c :: taken, a) else none

end

/-- The first cut of a text in the order of preference: an optional separator is rather there than
not, text before a dot is as short as possible, everything else as long as possible, and an earlier
token chooses before a later one. -/
def firstCut? (variant : Text) : List Token → Text → Option Cut
  | [], text => if text = [] then some [] else none
  | .literal part :: tokens, text | .separator part :: tokens, text => do
    let rest ← Text.after? part text
    (firstCut? variant tokens rest).map (.plain part :: ·)
  | .optionalSeparator part :: tokens, text =>
    match (Text.after? part text).bind (firstCut? variant tokens) with
    | some cut => some (.plain part :: cut)
    | none => (firstCut? variant tokens text).map (.plain [] :: ·)
  | .anyBeforeDot :: tokens, text =>
    (takeLeast (firstCut? variant tokens) (· ≠ '.') text).map fun (taken, cut) =>
      .plain taken :: cut
  | .buildVersion :: tokens, text =>
    (takeVersion (firstCut? variant tokens) text).map fun (taken, cut) => .version taken :: cut
  | .buildVariantName :: tokens, text => do
    let rest ← Text.after? variant text
    (takeMost (firstCut? variant tokens) Text.isDigit rest).map fun (digits, cut) =>
      .variant variant digits :: cut
  | .anyOptionalSymbols :: tokens, text =>
    (takeMost (firstCut? variant tokens) (· ≠ '\n') text).map fun (taken, cut) =>
      .plain taken :: cut

end BuildTags.Pattern
