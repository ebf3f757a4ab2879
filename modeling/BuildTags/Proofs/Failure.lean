import BuildTags.Proofs.Outcome
import BuildTags.Traced

namespace BuildTags

def FailsOnly {α : Type} (P : Failure → Prop) (outcome : Except Failure α) : Prop :=
  ∀ failure, outcome = .error failure → P failure

abbrev Reports {α : Type} (outcome : Except Failure α) : Prop :=
  FailsOnly (·.isReported = true) outcome

namespace FailsOnly

variable {α β ε : Type} {P Q : Failure → Prop}

theorem ok (a : α) : FailsOnly P (.ok a) := by
  intro failure h
  cases h

theorem error {failure : Failure} (h : P failure) : FailsOnly P (.error failure : Except Failure α) := by
  intro failure' h'
  cases h'
  exact h

theorem mono {outcome : Except Failure α} (h : FailsOnly P outcome)
    (hPQ : ∀ failure, P failure → Q failure) : FailsOnly Q outcome :=
  fun failure hf ↦ hPQ failure (h failure hf)

theorem mapError_of {outcome : Except ε α} {f : ε → Failure}
    (h : ∀ fault, outcome = .error fault → P (f fault)) : FailsOnly P (outcome.mapError f) := by
  intro failure hf
  cases outcome with
  | ok a => cases hf
  | error fault =>
    cases hf
    exact h fault rfl

theorem mapError {outcome : Except ε α} {f : ε → Failure} (h : ∀ fault, P (f fault)) :
    FailsOnly P (outcome.mapError f) := mapError_of fun fault _ ↦ h fault

theorem bind {outcome : Except Failure α} {next : α → Except Failure β} (h : FailsOnly P outcome)
    (h' : ∀ a, outcome = .ok a → FailsOnly P (next a)) : FailsOnly P (outcome >>= next) := by
  intro failure hf
  rcases bind_eq_error_iff.1 hf with hf | ⟨a, ha, hf⟩
  · exact h failure hf
  · exact h' a ha failure hf

theorem traced {first : Traced α} {next : α → Traced β} (h : FailsOnly P first.outcome)
    (h' : ∀ a, first.outcome = .ok a → FailsOnly P (next a).outcome) :
    FailsOnly P (first >>= next).outcome := by
  rw [Traced.outcome_bind]
  exact h.bind h'

end FailsOnly

end BuildTags
