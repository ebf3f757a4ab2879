import BuildTags.Json.Reader

namespace BuildTags

/-- What depends on the machine: the names that characters have, and the texts that are nested too
deeply to be read. Neither a flat object nor an expression without groups is nested too deeply. -/
structure Host where
  named : Text → Option Char := fun _ => none
  deepDocument : Text → Bool := fun _ => false
  deepExpression : Text → Bool := fun _ => false
  flat_document : ∀ text members, Json.read (some Numeral.maxDigits) text = .ok (.object members) →
    (∀ member ∈ members, Json.IsScalar member.2) → deepDocument text = false := by intros; rfl
  flat_expression : ∀ text, '(' ∉ text → deepExpression text = false := by intros; rfl

end BuildTags
