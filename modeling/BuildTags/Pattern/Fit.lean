import BuildTags.Pattern.Cut

namespace BuildTags.Pattern

inductive IsVersion : Text → Prop
  | digit {c : Char} (h : Text.isDigit c = true) : IsVersion [c]
  | more {c : Char} {text : Text} (h : Text.isDigit c = true) (rest : IsVersion text) :
      IsVersion (c :: text)
  | group {c : Char} {text : Text} (h : Text.isDigit c = true) (rest : IsVersion text) :
      IsVersion (c :: '.' :: text)

inductive Fits (variant : Text) : Token → Piece → Prop
  | literal (text : Text) : Fits variant (.literal text) (.plain text)
  | separator (text : Text) : Fits variant (.separator text) (.plain text)
  | present (text : Text) : Fits variant (.optionalSeparator text) (.plain text)
  | absent (text : Text) : Fits variant (.optionalSeparator text) (.plain [])
  | anyBeforeDot {text : Text} (h : '.' ∉ text) : Fits variant .anyBeforeDot (.plain text)
  | buildVersion {text : Text} (h : IsVersion text) : Fits variant .buildVersion (.version text)
  | buildVariantName {digits : Text} (h : ∀ c ∈ digits, Text.isDigit c = true) :
      Fits variant .buildVariantName (.variant variant digits)
  | anyOptionalSymbols {text : Text} (h : '\n' ∉ text) :
      Fits variant .anyOptionalSymbols (.plain text)

inductive IsCut (variant : Text) : List Token → Text → Cut → Prop
  | nil : IsCut variant [] [] []
  | cons {token : Token} {piece : Piece} {tokens : List Token} {rest : Text} {cut : Cut}
      (fits : Fits variant token piece) (more : IsCut variant tokens rest cut) :
      IsCut variant (token :: tokens) (piece.text ++ rest) (piece :: cut)

theorem IsCut.text_eq {variant : Text} {tokens : List Token} {name : Text} {cut : Cut}
    (h : IsCut variant tokens name cut) : cut.text = name := by
  induction h with
  | nil => rfl
  | cons _ _ ih => simp only [Cut.text, List.flatMap_cons] at ih ⊢; rw [ih]

theorem IsCut.length_eq {variant : Text} {tokens : List Token} {name : Text} {cut : Cut}
    (h : IsCut variant tokens name cut) : cut.length = tokens.length := by
  induction h with
  | nil => rfl
  | cons _ _ ih => simp [ih]

end BuildTags.Pattern
