import BuildTags.Numeral
import BuildTags.Pattern.Cut
import BuildTags.Pattern.Expression
import BuildTags.Pattern.Fault

namespace BuildTags

structure Pattern where
  tokens : List Pattern.Token
  variant : Text
  variant_ne_nil : variant ≠ []
  one_version : tokens.count .buildVersion = 1
  one_variant : tokens.count .buildVariantName = 1

namespace Pattern

def ofTokens (tokens : Option (List Token)) (variant : Text) : Except Fault Pattern :=
  let tokens := tokens.getD defaultTokens
  if hv : variant = [] then .error .emptyVariant
  else if h₁ : tokens.count .buildVersion = 1 then
    if h₂ : tokens.count .buildVariantName = 1 then .ok ⟨tokens, variant, hv, h₁, h₂⟩
    else .error (.variantCount (tokens.count .buildVariantName))
  else .error (.versionCount (tokens.count .buildVersion))

theorem ofTokens_eq_ok_iff {tokens : Option (List Token)} {variant : Text} {pattern : Pattern} :
    ofTokens tokens variant = .ok pattern ↔
      pattern.tokens = tokens.getD defaultTokens ∧ pattern.variant = variant := by
  obtain ⟨tokens', variant', hv, h₁, h₂⟩ := pattern
  constructor
  · intro h
    simp only [ofTokens] at h
    repeat' split at h
    all_goals cases h
    exact ⟨rfl, rfl⟩
  · rintro ⟨rfl, rfl⟩
    simp only [ofTokens]
    rw [dif_neg hv, dif_pos h₁, dif_pos h₂]

theorem exists_ofTokens_eq_ok_iff {tokens : Option (List Token)} {variant : Text} :
    (∃ pattern, ofTokens tokens variant = .ok pattern) ↔
      variant ≠ [] ∧ (tokens.getD defaultTokens).count .buildVersion = 1 ∧
        (tokens.getD defaultTokens).count .buildVariantName = 1 := by
  constructor
  · rintro ⟨pattern, h⟩
    obtain ⟨ht, hv⟩ := ofTokens_eq_ok_iff.1 h
    exact ⟨hv ▸ pattern.variant_ne_nil, ht ▸ pattern.one_version, ht ▸ pattern.one_variant⟩
  · rintro ⟨hv, h₁, h₂⟩
    exact ⟨⟨_, _, hv, h₁, h₂⟩, ofTokens_eq_ok_iff.2 ⟨rfl, rfl⟩⟩

theorem ofTokens_eq_error_iff {tokens : List Token} {variant : Text} {fault : Fault} :
    ofTokens (some tokens) variant = .error fault ↔
      variant = [] ∧ fault = .emptyVariant ∨
      variant ≠ [] ∧ tokens.count .buildVersion ≠ 1 ∧
        fault = .versionCount (tokens.count .buildVersion) ∨
      variant ≠ [] ∧ tokens.count .buildVersion = 1 ∧ tokens.count .buildVariantName ≠ 1 ∧
        fault = .variantCount (tokens.count .buildVariantName) := by
  simp only [ofTokens, Option.getD_some]
  split
  · simp [*, eq_comm]
  · split
    · split <;> simp [*, eq_comm]
    · simp [*, eq_comm]

theorem ofTokens_self (pattern : Pattern) :
    ofTokens (some pattern.tokens) pattern.variant = .ok pattern :=
  ofTokens_eq_ok_iff.2 ⟨rfl, rfl⟩

def expression (pattern : Pattern) : Text := expressionOf pattern.variant pattern.tokens

def template (pattern : Pattern) : Text := expressionOf placeholder pattern.tokens

def cut? (pattern : Pattern) (name : Text) : Option Cut :=
  firstCut? pattern.variant pattern.tokens name

structure Located where
  start : Nat
  text : Text
  deriving DecidableEq, Repr

def Located.stop (part : Located) : Nat := part.start + part.text.length

def Located.borders (part : Located) : Nat × Nat := (part.start, part.stop)

def Cut.version? : (position : Nat) → Cut → Option Located
  | _, [] => none
  | position, .version text :: _ => some ⟨position, text⟩
  | position, piece :: cut => Cut.version? (position + piece.text.length) cut

def Cut.trailing? : (position : Nat) → Cut → Option Located
  | _, [] => none
  | position, .variant name digits :: _ =>
    if digits = [] then none else some ⟨position + name.length, digits⟩
  | position, piece :: cut => Cut.trailing? (position + piece.text.length) cut

structure Parts where
  version : Text
  number : Located
  deriving DecidableEq, Repr

/-- The number after the variant name and the whole version, or else the last group of the version
and the groups before it. A version of one group holds no build number. -/
def Cut.parts? (cut : Cut) : Option Parts := do
  let version ← Cut.version? 0 cut
  match Cut.trailing? 0 cut with
  | some digits => some ⟨version.text, digits⟩
  | none =>
    let (head, last) ← Text.cutLast? "." version.text
    some ⟨head, ⟨version.start + head.length + 1, last⟩⟩

def parts? (pattern : Pattern) (name : Text) : Option Parts := (pattern.cut? name).bind Cut.parts?

def read (pattern : Pattern) (name : Text) : Except Numeral.Fault (Option (Text × Int)) :=
  match pattern.parts? name with
  | none => .ok none
  | some parts => do
    let number ← Numeral.read parts.number.text
    pure (some (parts.version, number))

/-- Where the digits of the build number stand in a tag name, the end not included. The dot before a
last group is looked for in the name itself, between the borders of the version. -/
def numberSpan? (pattern : Pattern) (name : Text) : Option (Nat × Nat) := do
  let cut ← pattern.cut? name
  match Cut.trailing? 0 cut with
  | some digits => some digits.borders
  | none =>
    let version ← Cut.version? 0 cut
    let dot ← Text.lastIndex? '.' name version.start version.stop
    some (dot + 1, version.stop)

def fitsWithoutNumber (pattern : Pattern) (name : Text) : Bool :=
  match pattern.cut? name with
  | some cut => cut.parts?.isNone
  | none => false

end Pattern

end BuildTags
