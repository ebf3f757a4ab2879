import BuildTags.Proofs.Pattern.Group
import BuildTags.Proofs.Pattern.Split

namespace BuildTags.Pattern

/-- Whether a piece is a version of several groups, or a variant name with digits after it. -/
def Piece.HasNumber : Piece → Prop
  | .plain _ => False
  | .version text => '.' ∈ text
  | .variant _ digits => digits ≠ []

def Cut.HasNumber (cut : Cut) : Prop := ∃ piece ∈ cut, piece.HasNumber

variable {variant name text digits : Text} {token : Token} {tokens : List Token} {piece : Piece}
  {cut : Cut} {part : Located}

theorem IsCut.exists_token (h : IsCut variant tokens name cut) (hm : piece ∈ cut) :
    ∃ token ∈ tokens, Fits variant token piece := by
  induction h with
  | nil => cases hm
  | @cons token head tokens _ cut fits more ih =>
    obtain rfl | hm := List.mem_cons.1 hm
    · exact ⟨token, List.mem_cons_self, fits⟩
    · obtain ⟨other, ho, hfits⟩ := ih hm
      exact ⟨other, List.mem_cons_of_mem _ ho, hfits⟩

theorem IsCut.exists_piece (h : IsCut variant tokens name cut) (hm : token ∈ tokens) :
    ∃ piece ∈ cut, Fits variant token piece := by
  obtain ⟨tokens₁, tokens₂, rfl⟩ := List.append_of_mem hm
  obtain ⟨_, _, cut₁, piece, cut₂, -, rfl, -, fits, -⟩ := h.exists_split
  exact ⟨piece, List.mem_append_right _ List.mem_cons_self, fits⟩

theorem version_mem_of_version? {position : Nat} (h : Cut.version? position cut = some part) :
    .version part.text ∈ cut := by
  induction cut generalizing position with
  | nil => cases h
  | cons piece cut ih =>
    cases piece with
    | version text =>
      obtain rfl := Option.some.inj h
      exact List.mem_cons_self
    | _ => exact List.mem_cons_of_mem _ (ih h)

theorem exists_variant_mem_of_trailing? {position : Nat}
    (h : Cut.trailing? position cut = some part) :
    ∃ name, .variant name part.text ∈ cut ∧ part.text ≠ [] := by
  induction cut generalizing position with
  | nil => cases h
  | cons piece cut ih =>
    cases piece with
    | variant name digits =>
      rw [Cut.trailing?, Option.ite_none_left_eq_some] at h
      obtain ⟨hne, h⟩ := h
      obtain rfl := Option.some.inj h
      exact ⟨name, List.mem_cons_self, hne⟩
    | _ =>
      obtain ⟨name, hm, hne⟩ := ih h
      exact ⟨name, List.mem_cons_of_mem _ hm, hne⟩

theorem notMem_of_count_cons {tokens : List Token} (h : (token :: tokens).count token ≤ 1) :
    token ∉ tokens := by
  intro hm
  have hpos := List.count_pos_iff.2 hm
  rw [List.count_cons_self] at h
  omega

theorem IsCut.version?_of_mem (h : IsCut variant tokens name cut)
    (hc : tokens.count .buildVersion ≤ 1) (hm : .version text ∈ cut) (position : Nat) :
    (Cut.version? position cut).map (·.text) = some text := by
  induction h generalizing position with
  | nil => cases hm
  | @cons token piece tokens _ cut fits more ih =>
    have hcount := Nat.le_trans List.count_le_count_cons hc
    obtain rfl | hrest := List.mem_cons.1 hm
    · rfl
    · cases fits with
      | buildVersion =>
        obtain ⟨other, ho, hfits⟩ := more.exists_token hrest
        cases hfits
        exact absurd ho (notMem_of_count_cons hc)
      | _ => exact ih hcount hrest _

theorem IsCut.trailing?_of_mem (h : IsCut variant tokens name cut)
    (hc : tokens.count .buildVariantName ≤ 1) (hm : .variant variant digits ∈ cut) (position : Nat) :
    (Cut.trailing? position cut).map (·.text) = if digits = [] then none else some digits := by
  induction h generalizing position with
  | nil => cases hm
  | @cons token piece tokens _ cut fits more ih =>
    have hcount := Nat.le_trans List.count_le_count_cons hc
    obtain rfl | hrest := List.mem_cons.1 hm
    · rw [Cut.trailing?]
      split <;> rfl
    · cases fits with
      | buildVariantName =>
        obtain ⟨other, ho, hfits⟩ := more.exists_token hrest
        cases hfits
        exact absurd ho (notMem_of_count_cons hc)
      | _ => exact ih hcount hrest _

theorem IsCut.isSome_parts?_iff (h : IsCut variant tokens name cut)
    (hv : tokens.count .buildVersion = 1) (hn : tokens.count .buildVariantName = 1) :
    cut.parts?.isSome ↔ cut.HasNumber := by
  constructor
  · intro hp
    obtain ⟨parts, hp⟩ := Option.isSome_iff_exists.1 hp
    obtain ⟨version, hversion, ⟨ht, -⟩ | ⟨-, hl, -⟩⟩ := cut_parts?_eq_some_iff.1 hp
    · obtain ⟨_, hm, hne⟩ := exists_variant_mem_of_trailing? ht
      exact ⟨_, hm, hne⟩
    · have hdot : '.' ∈ version.text := by
        rw [(Text.cutLast?_singleton_eq_some_iff.1 hl).1]
        exact List.mem_append_cons_self
      exact ⟨_, version_mem_of_version? hversion, hdot⟩
  · rintro ⟨piece, hm, hnumber⟩
    have hv' := Nat.le_of_eq hv
    have hn' := Nat.le_of_eq hn
    have htoken : .buildVersion ∈ tokens := List.count_pos_iff.1 (by omega)
    obtain ⟨_, hmv, hfits⟩ := h.exists_piece htoken
    cases hfits with | @buildVersion text => ?_
    obtain ⟨version, hversion, rfl⟩ := Option.map_eq_some_iff.1 (h.version?_of_mem hv' hmv 0)
    cases ht : Cut.trailing? 0 cut with
    | some digits =>
      have hparts : cut.parts? = some ⟨version.text, digits⟩ :=
        cut_parts?_eq_some_iff.2 ⟨version, hversion, .inl ⟨ht, rfl⟩⟩
      exact Option.isSome_of_eq_some hparts
    | none =>
      obtain ⟨token, -, hfits⟩ := h.exists_token hm
      cases hfits with
      | buildVersion =>
        have hsame := h.version?_of_mem hv' hm 0
        rw [hversion] at hsame
        obtain rfl := Option.some.inj hsame
        have hsome := mt Text.cutLast?_singleton_eq_none_iff.1 (not_not_intro hnumber)
        obtain ⟨⟨head, last⟩, hlast⟩ := Option.ne_none_iff_exists'.1 hsome
        have hparts : cut.parts? = some ⟨head, ⟨version.start + head.length + 1, last⟩⟩ :=
          cut_parts?_eq_some_iff.2 ⟨version, hversion, .inr ⟨ht, hlast, rfl⟩⟩
        exact Option.isSome_of_eq_some hparts
      | @buildVariantName digits =>
        have hsame := h.trailing?_of_mem hn' hm 0
        rw [ht, if_neg hnumber] at hsame
        cases hsame
      | _ => cases hnumber

theorem exists_read_iff {pattern : Pattern} (hs : name.HasShortGroups) :
    (∃ version number, pattern.read name = .ok (some (version, number))) ↔
      ∃ first, IsFirst pattern.variant pattern.tokens name first ∧ first.HasNumber := by
  constructor
  · rintro ⟨version, number, hr⟩
    obtain ⟨parts, hp, -⟩ := read_eq_ok_some_iff.1 hr
    obtain ⟨first, hf, hparts⟩ := parts?_eq_some_iff.1 hp
    have hfirst := isFirst_of_firstCut? hf
    refine ⟨first, hfirst, ?_⟩
    rw [← hfirst.1.isSome_parts?_iff pattern.one_version pattern.one_variant, hparts]
    rfl
  · rintro ⟨first, hfirst, hn⟩
    rw [← hfirst.1.isSome_parts?_iff pattern.one_version pattern.one_variant] at hn
    obtain ⟨parts, hparts⟩ := Option.isSome_iff_exists.1 hn
    have hp := parts?_eq_some_iff.2 ⟨first, firstCut?_eq_some_iff.2 hfirst, hparts⟩
    obtain ⟨number, -, hr⟩ := exists_read_number hs hp
    exact ⟨_, number, hr⟩

end BuildTags.Pattern
