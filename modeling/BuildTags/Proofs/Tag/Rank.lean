import BuildTags.Proofs.Tag.Latest

namespace BuildTags

namespace Match

/-- Whether the first of two matches has the greater number or, of equal numbers, the later
position. -/
def Outranks (first second : Match × Nat) : Prop :=
  second.1.number < first.1.number ∨ second.1.number = first.1.number ∧ second.2 < first.2

theorem Outranks.asymm {first second : Match × Nat} (h : Outranks first second) :
    ¬Outranks second first := by
  simp only [Outranks] at h ⊢
  omega

theorem Outranks.ne {first second : Match × Nat} (h : Outranks first second) : second ≠ first := by
  rintro rfl
  exact h.asymm h

/-- Whether a match is the greatest, by number and then by position, of those that are counted. -/
structure IsLatest (among : List (Match × Nat)) (counted : Match × Nat → Prop)
    (best : Match × Nat) : Prop where
  mem : best ∈ among
  isCounted : counted best
  outranks : ∀ other ∈ among, counted other → other ≠ best → Outranks best other

/-- Whether a build is the one of the greatest match that is counted, or missing if none is
counted. -/
def IsLatestBuild (variant : Text) (among : List (Match × Nat)) (counted : Match × Nat → Prop) :
    Option Build → Prop
  | none => ∀ other ∈ among, ¬counted other
  | some build => ∃ best, IsLatest among counted best ∧ build = Build.ofMatch best.1 variant

section

variable {among ranking : List (Match × Nat)} {best : Match × Nat} {counted : Match × Nat → Bool}

theorem exists_ranking (h : among.Pairwise (·.2 < ·.2)) :
    ∃ ranking : List (Match × Nat), ranking.map (·.1) = ranked (among.map (·.1)) ∧
      ranking.Perm among ∧ ranking.Pairwise Outranks := by
  induction among using List.reverseRecOn with
  | nil => exact ⟨[], by simp [ranked], .refl _, .nil⟩
  | append_singleton among last ih =>
    obtain ⟨hp, -, hlast⟩ := List.pairwise_append.1 h
    obtain ⟨ranking, hmap, hperm, hpair⟩ := ih hp
    obtain ⟨before, after, hm, hf, hbefore, hafter⟩ :=
      exists_ranked_append_singleton (among.map (·.1)) last.1
    obtain ⟨first, rest, rfl, rfl, rfl⟩ := List.map_eq_append_iff.1 (hmap.trans hf)
    have hposition : ∀ other ∈ first ++ rest, other.2 < last.2 := by
      intro other ho
      exact hlast other (hperm.mem_iff.1 ho) last (by simp)
    obtain ⟨hfirst, hrest, hboth⟩ := List.pairwise_append.1 hpair
    refine ⟨first ++ last :: rest, by simp [hm], ?_, ?_⟩
    · exact List.perm_middle.trans ((hperm.cons last).trans (List.perm_append_singleton _ _).symm)
    · refine List.pairwise_append.2 ⟨hfirst, List.pairwise_cons.2 ⟨?_, hrest⟩, ?_⟩
      · intro other ho
        obtain hlt | heq := Int.lt_or_eq_of_le (hafter _ (List.mem_map_of_mem ho))
        · exact .inl hlt
        · exact .inr ⟨heq, hposition other (List.mem_append_right _ ho)⟩
      · intro other ho later hl
        obtain rfl | hl := List.mem_cons.1 hl
        · exact .inl (hbefore _ (List.mem_map_of_mem ho))
        · exact hboth other ho later hl

theorem isLatest_of_find? (hp : ranking.Perm among) (h : ranking.Pairwise Outranks)
    (hf : ranking.find? counted = some best) : IsLatest among (counted · = true) best := by
  obtain ⟨hc, before, after, rfl, hbefore⟩ := List.find?_eq_some_iff_append.1 hf
  refine ⟨hp.mem_iff.1 (by simp), hc, fun other ho hother hne ↦ ?_⟩
  obtain hm | hm := List.mem_append.1 (hp.mem_iff.2 ho)
  · have hn := hbefore other hm
    rw [hother] at hn
    cases hn
  · obtain rfl | hm := List.mem_cons.1 hm
    · exact absurd rfl hne
    · exact (List.pairwise_cons.1 (List.pairwise_append.1 h).2.1).1 other hm

theorem isLatestBuild_find? (variant : Text) (counted : Match × Nat → Bool)
    (hp : ranking.Perm among) (h : ranking.Pairwise Outranks) :
    IsLatestBuild variant among (counted · = true)
      ((ranking.find? counted).map (Build.ofMatch ·.1 variant)) := by
  cases hf : ranking.find? counted with
  | none =>
    intro other ho
    exact List.find?_eq_none.1 hf other (hp.mem_iff.2 ho)
  | some best => exact ⟨best, isLatest_of_find? hp h hf, rfl⟩

end

def placed (pattern : Pattern) (tags : List Tag) : List (Match × Nat) :=
  tags.zipIdx.filterMap fun tag ↦ (ofTag? pattern tag.1).map (·, tag.2)

theorem map_placed (pattern : Pattern) (tags : List Tag) :
    (placed pattern tags).map (·.1) = tags.filterMap (ofTag? pattern) := by
  have hmap : (placed pattern tags).map (·.1) =
      tags.zipIdx.filterMap (ofTag? pattern ∘ Prod.fst) := by
    rw [placed, List.map_filterMap]
    simp [Function.comp_def]
  rw [hmap, ← List.filterMap_map, List.zipIdx_map_fst]

theorem pairwise_placed (pattern : Pattern) (tags : List Tag) :
    (placed pattern tags).Pairwise (·.2 < ·.2) := by
  have hz : tags.zipIdx.Pairwise (·.2 < ·.2) := by
    rw [← List.pairwise_map, List.zipIdx_map_snd]
    exact List.pairwise_lt_range'
  refine List.pairwise_filterMap.2 (hz.imp fun h m hm m' hm' ↦ ?_)
  obtain ⟨_, -, rfl⟩ := Option.map_eq_some_iff.1 hm
  obtain ⟨_, -, rfl⟩ := Option.map_eq_some_iff.1 hm'
  exact h

end Match

end BuildTags
