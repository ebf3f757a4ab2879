import BuildTags.Proofs.Pattern.Number
import BuildTags.Proofs.Tag.Rank

namespace BuildTags

open Match (Outranks IsLatest IsLatestBuild isLatestBuild_find? placed ranked)

/-- Whether a snapshot is the one of a current match: its builds before the current one are those of
the greatest match but this one, and of the greatest one on another commit. -/
structure Snapshot.IsOf (variant : Text) (among : List (Match × Nat)) (current : Match × Nat)
    (snapshot : Snapshot) : Prop where
  current_eq : snapshot.current = Build.ofMatch current.1 variant
  predecessor : IsLatestBuild variant among (· ≠ current) snapshot.predecessor
  predecessorElsewhere : IsLatestBuild variant among (·.1.tag.sha ≠ current.1.tag.sha)
    snapshot.predecessorElsewhere

namespace Snapshot

variable {variant : Text} {among ranking earlier : List (Match × Nat)} {current : Match × Nat}
  {snapshot : Snapshot} {found : List Match}

theorem ofMatches?_eq_none_iff : ofMatches? variant found = none ↔ found = [] := by
  rw [← Match.latest_eq_none_iff, ← Option.map_eq_none_iff (f := (Build.ofMatch · variant)),
    ← current_ofMatches?, Option.map_eq_none_iff]

theorem ofMatches?_of_ranked (h : (current :: earlier).map (·.1) = ranked found) :
    ofMatches? variant found = some {
      current := Build.ofMatch current.1 variant
      predecessor := earlier.head?.map (Build.ofMatch ·.1 variant)
      predecessorElsewhere := (earlier.find? (·.1.tag.sha ≠ current.1.tag.sha)).map
        (Build.ofMatch ·.1 variant) } := by
  rw [ofMatches?, ← h, List.map_cons]
  simp only [List.head?_map, Option.map_map, List.find?_map, Function.comp_def]

theorem find?_ne_eq_head? (h : (current :: earlier).Pairwise Outranks) :
    (current :: earlier).find? (· ≠ current) = earlier.head? := by
  rw [List.find?_cons_of_neg (by simp)]
  cases earlier with
  | nil => rfl
  | cons next earlier =>
    have hrank : Outranks current next := (List.pairwise_cons.1 h).1 next (by simp)
    have hne : next ≠ current := hrank.ne
    exact List.find?_cons_of_pos (by simpa using hne)

theorem exists_isOf (variant : Text) (hp : (current :: earlier).Perm among)
    (h : (current :: earlier).Pairwise Outranks) (hr : (current :: earlier).map (·.1) = ranked found) :
    ∃ snapshot, ofMatches? variant found = some snapshot ∧ IsOf variant among current snapshot := by
  refine ⟨_, ofMatches?_of_ranked hr, rfl, ?_, ?_⟩
  · have hl := isLatestBuild_find? variant (· ≠ current) hp h
    rw [find?_ne_eq_head? h] at hl
    simpa using hl
  · have hl := isLatestBuild_find? variant (·.1.tag.sha ≠ current.1.tag.sha) hp h
    rw [List.find?_cons_of_neg (by simp)] at hl
    simpa using hl

theorem IsOf.sha_ne_of_previous (h : IsOf variant among current snapshot) {build : Build}
    (hb : snapshot.previous = some build) : build.sha ≠ snapshot.current.sha := by
  have he := h.predecessorElsewhere
  rw [show snapshot.predecessorElsewhere = some build from hb] at he
  obtain ⟨best, hbest, rfl⟩ := he
  rw [h.current_eq]
  exact hbest.isCounted

/-- If the greatest of the other matches is on another commit, it is the greatest one there. -/
theorem IsOf.previous_eq (h : IsOf variant among current snapshot) (hne : snapshot.predecessor ≠ none)
    (hs : snapshot.sharesCommit = false) : snapshot.previous = snapshot.predecessor := by
  obtain ⟨build, hb⟩ := Option.ne_none_iff_exists'.1 hne
  have hp := h.predecessor
  rw [hb] at hp
  obtain ⟨best, hbest, rfl⟩ := hp
  have hsha : best.1.tag.sha ≠ current.1.tag.sha := by
    simpa [sharesCommit, hb, h.current_eq, Build.ofMatch] using hs
  have he := h.predecessorElsewhere
  rw [previous, hb]
  cases ho : snapshot.predecessorElsewhere with
  | none =>
    rw [ho] at he
    exact absurd hsha (he best hbest.mem)
  | some other =>
    rw [ho] at he
    obtain ⟨best', hbest', rfl⟩ := he
    have hcurrent : best' ≠ current := fun heq ↦ hbest'.isCounted (heq ▸ rfl)
    have hsame : best' = best := by
      by_contra hne'
      exact (hbest.outranks best' hbest'.mem hcurrent hne').asymm
        (hbest'.outranks best hbest.mem hsha (Ne.symm hne'))
    rw [hsame]

end Snapshot

namespace Match

variable {pattern : Pattern} {tags : List Tag} {current : Match}

theorem outcome_searchLatest_eq_error_iff {failure : Failure} :
    (searchLatest pattern tags).outcome = .error failure ↔
      (Snapshot.search pattern tags).outcome = .error failure := by
  rw [outcome_searchLatest, Snapshot.outcome_search, Snapshot.ofTags?]
  cases ofTags pattern tags with
  | error fault => simp [Except.map]
  | ok found =>
    constructor
    · intro h
      cases h
    · intro h
      cases h

theorem exists_outcome_searchLatest_eq_error_iff :
    (∃ failure, (searchLatest pattern tags).outcome = .error failure) ↔
      ∃ tag ∈ tags, ∃ fault, pattern.read tag.name = .error fault := by
  rw [outcome_searchLatest]
  constructor
  · rintro ⟨failure, h⟩
    cases hf : ofTags pattern tags with
    | error fault =>
      obtain ⟨tag, ht, hr⟩ := exists_read_error_of_ofTags hf
      exact ⟨tag, ht, fault, hr⟩
    | ok found =>
      rw [hf] at h
      cases h
  · rintro ⟨tag, ht, fault, hr⟩
    cases hf : ofTags pattern tags with
    | error fault => exact ⟨_, rfl⟩
    | ok found =>
      obtain ⟨parts, hparts⟩ := (ofTags_eq_ok_iff.1 hf).1 tag ht
      rw [hr] at hparts
      cases hparts

theorem outcome_search_eq_ok_iff {snapshot : Option Snapshot} :
    (Snapshot.search pattern tags).outcome = .ok snapshot ↔
      ∃ found, ofTags pattern tags = .ok found ∧
        Snapshot.ofMatches? pattern.variant found = snapshot := by
  rw [Snapshot.outcome_search, Snapshot.ofTags?, mapError_eq_ok_iff, map_eq_ok_iff]

theorem exists_isLatest (h : (searchLatest pattern tags).outcome = .ok (some current)) :
    ∃ position snapshot, (Snapshot.search pattern tags).outcome = .ok (some snapshot) ∧
      IsLatest (placed pattern tags) (fun _ ↦ True) (current, position) ∧
      snapshot.IsOf pattern.variant (placed pattern tags) (current, position) := by
  obtain ⟨found, hf, hl⟩ := outcome_searchLatest_eq_ok_iff.1 h
  obtain ⟨ranking, hmap, hperm, hpair⟩ := exists_ranking (pairwise_placed pattern tags)
  rw [map_placed, ← (ofTags_eq_ok_iff.1 hf).2] at hmap
  rw [← head?_ranked, ← hmap, List.head?_map] at hl
  obtain ⟨⟨current, position⟩, hhead, rfl⟩ := Option.map_eq_some_iff.1 hl
  obtain ⟨earlier, rfl⟩ := List.head?_eq_some_iff.1 hhead
  obtain ⟨snapshot, hs, hof⟩ := Snapshot.exists_isOf pattern.variant hperm hpair hmap
  refine ⟨position, snapshot, outcome_search_eq_ok_iff.2 ⟨found, hf, hs⟩, ?_, hof⟩
  have hfind : ((current, position) :: earlier).find? (fun _ ↦ true) = some (current, position) := rfl
  simpa using isLatest_of_find? hperm hpair hfind

/-- The search for the latest match and the one for a snapshot fail alike, where a number cannot be
read, and both find nothing if no tag matches. Otherwise they choose the same match, the greatest one
by number and then by position. The builds before it are those of the greatest other match and of the
greatest one on another commit, which are the same where the former is on another commit. -/
theorem searches_choose_latest (pattern : Pattern) (tags : List Tag) :
    (∀ failure, (searchLatest pattern tags).outcome = .error failure ↔
      (Snapshot.search pattern tags).outcome = .error failure) ∧
    ((∃ failure, (searchLatest pattern tags).outcome = .error failure) ↔
      ∃ tag ∈ tags, ∃ fault, pattern.read tag.name = .error fault) ∧
    ((searchLatest pattern tags).outcome = .ok none ↔
      (Snapshot.search pattern tags).outcome = .ok none) ∧
    ((Snapshot.search pattern tags).outcome = .ok none ↔
      ∀ tag ∈ tags, pattern.read tag.name = .ok none) ∧
    ∀ current, (searchLatest pattern tags).outcome = .ok (some current) →
      ∃ position snapshot, (Snapshot.search pattern tags).outcome = .ok (some snapshot) ∧
        IsLatest (placed pattern tags) (fun _ ↦ True) (current, position) ∧
        snapshot.IsOf pattern.variant (placed pattern tags) (current, position) ∧
        (∀ build, snapshot.previous = some build → build.sha ≠ snapshot.current.sha) ∧
        (snapshot.predecessor ≠ none → snapshot.sharesCommit = false →
          snapshot.previous = snapshot.predecessor) := by
  have hnone : (Snapshot.search pattern tags).outcome = .ok none ↔ ofTags pattern tags = .ok [] := by
    simp [outcome_search_eq_ok_iff, Snapshot.ofMatches?_eq_none_iff]
  refine ⟨fun _ ↦ outcome_searchLatest_eq_error_iff, exists_outcome_searchLatest_eq_error_iff, ?_,
    hnone.trans ofTags_eq_ok_nil_iff, fun current h ↦ ?_⟩
  · rw [hnone]
    simp [outcome_searchLatest_eq_ok_iff, latest_eq_none_iff]
  · obtain ⟨position, snapshot, hs, hlatest, hof⟩ := exists_isLatest h
    exact ⟨position, snapshot, hs, hlatest, hof, fun _ ↦ hof.sha_ne_of_previous, hof.previous_eq⟩

def tiedTags : List Tag :=
  [⟨"v1.0.5-debug", "a", [], 0⟩, ⟨"v1.0.7-debug", "b", [], 1⟩, ⟨"v2.0.7-debug", "b", [], 2⟩]

theorem later_of_tied_chosen :
    ∃ pattern, Pattern.ofTokens none "debug" = .ok pattern ∧
      (searchLatest pattern tiedTags).outcome =
        .ok (some ⟨⟨"v2.0.7-debug", "b", [], 2⟩, "2.0", 7⟩) ∧
      ∃ position snapshot, (Snapshot.search pattern tiedTags).outcome = .ok (some snapshot) ∧
        IsLatest (placed pattern tiedTags) (fun _ ↦ True)
          (⟨⟨"v2.0.7-debug", "b", [], 2⟩, "2.0", 7⟩, position) ∧
        snapshot.current.name = "v2.0.7-debug" ∧
        ∀ build, snapshot.previous = some build → build.sha ≠ "b" := by
  let pattern : Pattern := ⟨Pattern.defaultTokens, "debug", by decide, by decide, by decide⟩
  have hlatest : (searchLatest pattern tiedTags).outcome =
      .ok (some ⟨⟨"v2.0.7-debug", "b", [], 2⟩, "2.0", 7⟩) := by decide +kernel
  obtain ⟨-, -, -, -, hchosen⟩ := searches_choose_latest pattern tiedTags
  obtain ⟨position, snapshot, hs, hbest, hof, hprevious, -⟩ := hchosen _ hlatest
  refine ⟨pattern, rfl, hlatest, position, snapshot, hs, hbest, congrArg Build.name hof.current_eq, ?_⟩
  intro build hb
  have hsha : snapshot.current.sha = "b" := congrArg Build.sha hof.current_eq
  exact hsha ▸ hprevious build hb

end Match

end BuildTags
