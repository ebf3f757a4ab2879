import BuildTags.Pattern.Basic
import BuildTags.Proofs.Pattern.Preference

namespace BuildTags.Pattern

variable {variant name name₁ name₂ name₂' : Text} {token : Token} {tokens₁ tokens₂ : List Token}
  {piece piece' : Piece} {cut cut₁ cut₂ cut₁' cut₂' : Cut}

theorem IsCut.append (h : IsCut variant tokens₁ name₁ cut₁) (h' : IsCut variant tokens₂ name₂ cut₂) :
    IsCut variant (tokens₁ ++ tokens₂) (name₁ ++ name₂) (cut₁ ++ cut₂) := by
  induction h with
  | nil => exact h'
  | cons fits more ih =>
    rw [List.append_assoc]
    exact .cons fits ih

theorem IsCut.exists_append (h : IsCut variant (tokens₁ ++ tokens₂) name cut) :
    ∃ name₁ name₂ cut₁ cut₂, name = name₁ ++ name₂ ∧ cut = cut₁ ++ cut₂ ∧
      IsCut variant tokens₁ name₁ cut₁ ∧ IsCut variant tokens₂ name₂ cut₂ := by
  induction tokens₁ generalizing name cut with
  | nil => exact ⟨[], name, [], cut, rfl, rfl, .nil, h⟩
  | cons token tokens₁ ih =>
    obtain ⟨piece, rest, cut, rfl, rfl, fits, more⟩ := isCut_cons_iff.1 h
    obtain ⟨name₁, name₂, cut₁, cut₂, rfl, rfl, h₁, h₂⟩ := ih more
    exact ⟨piece.text ++ name₁, name₂, piece :: cut₁, cut₂, (List.append_assoc _ _ _).symm, rfl,
      .cons fits h₁, h₂⟩

theorem IsCut.exists_split (h : IsCut variant (tokens₁ ++ token :: tokens₂) name cut) :
    ∃ name₁ name₂ cut₁ piece cut₂, name = name₁ ++ (piece.text ++ name₂) ∧
      cut = cut₁ ++ piece :: cut₂ ∧ IsCut variant tokens₁ name₁ cut₁ ∧ Fits variant token piece ∧
      IsCut variant tokens₂ name₂ cut₂ := by
  obtain ⟨name₁, _, cut₁, _, rfl, rfl, h₁, h₂⟩ := h.exists_append
  obtain ⟨piece, name₂, cut₂, rfl, rfl, fits, more⟩ := isCut_cons_iff.1 h₂
  exact ⟨name₁, name₂, cut₁, piece, cut₂, rfl, rfl, h₁, fits, more⟩

theorem IsCut.version?_append (h : IsCut variant tokens₁ name₁ cut₁) (hn : .buildVersion ∉ tokens₁)
    (position : Nat) :
    Cut.version? position (cut₁ ++ cut₂) = Cut.version? (position + name₁.length) cut₂ := by
  induction h generalizing position with
  | nil => rfl
  | cons fits more ih =>
    rw [List.mem_cons, not_or] at hn
    rw [List.length_append, ← Nat.add_assoc, ← ih hn.2]
    cases fits <;> first | rfl | exact absurd rfl hn.1

theorem IsCut.trailing?_append (h : IsCut variant tokens₁ name₁ cut₁)
    (hn : .buildVariantName ∉ tokens₁) (position : Nat) :
    Cut.trailing? position (cut₁ ++ cut₂) = Cut.trailing? (position + name₁.length) cut₂ := by
  induction h generalizing position with
  | nil => rfl
  | cons fits more ih =>
    rw [List.mem_cons, not_or] at hn
    rw [List.length_append, ← Nat.add_assoc, ← ih hn.2]
    cases fits <;> first | rfl | exact absurd rfl hn.1

theorem map_version?_variant (cut₁ cut₂ : Cut) (variant digits digits' : Text) (k l : Nat) :
    (Cut.version? k (cut₁ ++ .variant variant digits :: cut₂)).map (·.text) =
      (Cut.version? l (cut₁ ++ .variant variant digits' :: cut₂)).map (·.text) := by
  have hpos (cut : Cut) (k l : Nat) :
      (Cut.version? k cut).map (·.text) = (Cut.version? l cut).map (·.text) := by
    induction cut generalizing k l with
    | nil => rfl
    | cons piece cut ih => cases piece <;> first | rfl | exact ih _ _
  induction cut₁ generalizing k l with
  | nil => exact hpos cut₂ _ _
  | cons piece cut₁ ih => cases piece <;> first | rfl | exact ih _ _

theorem trailing?_version (cut₁ cut₂ : Cut) (version version' : Text) (k l : Nat)
    (h : Cut.trailing? k (cut₁ ++ .version version :: cut₂) = none) :
    Cut.trailing? l (cut₁ ++ .version version' :: cut₂) = none := by
  have hpos (cut : Cut) (k l : Nat) (h : Cut.trailing? k cut = none) : Cut.trailing? l cut = none := by
    induction cut generalizing k l with
    | nil => rfl
    | cons piece cut ih =>
      cases piece with
      | variant name digits => simpa [Cut.trailing?] using h
      | _ => exact ih _ _ h
  induction cut₁ generalizing k l with
  | nil => exact hpos cut₂ _ _ h
  | cons piece cut₁ ih =>
    cases piece with
    | variant name digits => simpa [Cut.trailing?] using h
    | _ => exact ih _ _ h

theorem Precedes.append_cases (hl : cut₁.length = tokens₁.length) (hl' : cut₁'.length = tokens₁.length)
    (h : Precedes (tokens₁ ++ tokens₂) (cut₁ ++ cut₂) (cut₁' ++ cut₂')) :
    cut₁ = cut₁' ∧ Precedes tokens₂ cut₂ cut₂' ∨
      ∀ more more', Precedes (tokens₁ ++ tokens₂) (cut₁ ++ more) (cut₁' ++ more') := by
  induction tokens₁ generalizing cut₁ cut₁' with
  | nil =>
    obtain rfl := List.eq_nil_of_length_eq_zero hl
    obtain rfl := List.eq_nil_of_length_eq_zero hl'
    exact .inl ⟨rfl, h⟩
  | cons token tokens₁ ih =>
    obtain ⟨piece, cut₁, rfl⟩ := List.exists_cons_of_length_eq_add_one hl
    obtain ⟨piece', cut₁', rfl⟩ := List.exists_cons_of_length_eq_add_one hl'
    cases h with
    | here hpref => exact .inr fun _ _ ↦ .here hpref
    | later hmore =>
      obtain ⟨rfl, hp⟩ | hall := ih (Nat.succ.inj hl) (Nat.succ.inj hl') hmore
      · exact .inl ⟨rfl, hp⟩
      · exact .inr fun more more' ↦ .later (hall more more')

theorem IsCut.precedes_append (h₁ : IsCut variant tokens₁ name₁ cut₁)
    (h : Precedes tokens₂ cut₂ cut₂') :
    Precedes (tokens₁ ++ tokens₂) (cut₁ ++ cut₂) (cut₁ ++ cut₂') := by
  induction h₁ with
  | nil => exact h
  | cons _ _ ih => exact .later ih

/-- No piece that can be taken at the place of a piece of the first cut is preferred to it. -/
theorem IsFirst.not_prefers
    (hf : IsFirst variant (tokens₁ ++ token :: tokens₂) name (cut₁ ++ piece :: cut₂))
    (h₁ : IsCut variant tokens₁ name₁ cut₁) (hname : name = name₁ ++ (piece'.text ++ name₂'))
    (fits : Fits variant token piece') (h₂ : IsCut variant tokens₂ name₂' cut₂') :
    ¬token.prefers piece'.text.length piece.text.length := by
  intro hpref
  have hother := h₁.append (.cons fits h₂)
  rw [← hname] at hother
  exact hf.not_precedes hother (h₁.precedes_append (.here hpref))

end BuildTags.Pattern
