namespace BuildTags

section

variable {ε ε' α β : Type} {x : Except ε α} {f : α → Except ε β} {a : α} {b : β} {e : ε}

@[simp] theorem ok_bind : (Except.ok a >>= f : Except ε β) = f a := rfl

@[simp] theorem mapError_ok (g : ε → ε') : (Except.ok a).mapError g = .ok a := rfl

@[simp] theorem mapError_error (g : ε → ε') :
    (Except.error e : Except ε α).mapError g = .error (g e) := rfl

@[simp] theorem error_bind : (Except.error e >>= f : Except ε β) = .error e := rfl

theorem bind_eq_ok_iff : (x >>= f) = .ok b ↔ ∃ a, x = .ok a ∧ f a = .ok b := by
  cases x <;> simp

theorem bind_eq_error_iff :
    (x >>= f) = .error e ↔ x = .error e ∨ ∃ a, x = .ok a ∧ f a = .error e := by
  cases x <;> simp

theorem mapError_eq_ok_iff {g : ε → ε'} : x.mapError g = .ok a ↔ x = .ok a := by
  cases x <;> simp

theorem toOption_eq_some_iff : x.toOption = some a ↔ x = .ok a := by
  cases x <;> simp [Except.toOption]

theorem map_eq_ok_iff {g : α → β} : x.map g = .ok b ↔ ∃ a, x = .ok a ∧ g a = b := by
  cases x <;> simp [Except.map]

theorem map_eq_self_iff {g : α → α} : x.map g = x ↔ ∀ a, x = .ok a → g a = a := by
  cases x <;> simp [Except.map]

theorem map_eq_error_iff {g : α → β} : x.map g = .error e ↔ x = .error e := by
  cases x <;> simp [Except.map]

end

end BuildTags
