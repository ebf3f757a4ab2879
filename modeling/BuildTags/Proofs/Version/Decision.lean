import BuildTags.Proofs.Repository.Recorded
import BuildTags.Proofs.Tag.Selection
import BuildTags.Proofs.Version.Stamp

namespace BuildTags.Version

open Match (IsLatest placed)

/-- What is decided on tags: the version of the greatest match, and where no tag matches, the one of
the stub or a failure. -/
inductive Chosen (pattern : Pattern) (variant : Text) (settings : Settings) (tags : List Tag) :
    Except Failure Stamp → Prop
  | tagged {best : Match × Nat} {stamp : Stamp}
      (hb : IsLatest (placed pattern tags) (fun _ ↦ True) best)
      (hs : stamp.IsOf settings (Build.ofMatch best.1 variant)) :
      Chosen pattern variant settings tags (.ok stamp)
  | stub {stamp : Stamp} (hn : ∀ tag ∈ tags, pattern.read tag.name = .ok none)
      (hf : settings.stubFallback = true) (hs : stamp.IsOf settings (Build.stub variant)) :
      Chosen pattern variant settings tags (.ok stamp)
  | missing (hn : ∀ tag ∈ tags, pattern.read tag.name = .ok none)
      (hf : settings.stubFallback = false) :
      Chosen pattern variant settings tags (.error (.noTag variant))

inductive Decided (source : Repository.Source) (variant : Text) (settings : Settings)
    (tokens : Option (List Pattern.Token)) : Except Failure Stamp → List Repository.Request → Prop
  | malformed {fault : Pattern.Fault} (hp : Pattern.ofTokens tokens variant = .error fault) :
      Decided source variant settings tokens (.error (.pattern fault)) []
  | configured {pattern : Pattern} (hp : Pattern.ofTokens tokens variant = .ok pattern)
      (hf : settings.fromTag = false) (hd : settings.defaultsFallback = true) :
      Decided source variant settings tokens
        (.ok ⟨settings.defaultCode, settings.defaultName, none⟩) []
  | unset {pattern : Pattern} (hp : Pattern.ofTokens tokens variant = .ok pattern)
      (hf : settings.fromTag = false) (hd : settings.defaultsFallback = false) :
      Decided source variant settings tokens (.ok ⟨none, none, none⟩) []
  | unlisted {pattern : Pattern} {failure : Failure}
      (hp : Pattern.ofTokens tokens variant = .ok pattern) (hf : settings.fromTag = true)
      (ht : source.allTags.outcome = .error failure) :
      Decided source variant settings tokens (.error failure) [.allTags]
  | listed {pattern : Pattern} {tags : List Tag} {outcome : Except Failure Stamp}
      (hp : Pattern.ofTokens tokens variant = .ok pattern) (hf : settings.fromTag = true)
      (ht : source.allTags.outcome = .ok tags)
      (hc : (∀ tag ∈ tags, tag.name.HasShortGroups) →
        Chosen pattern variant settings tags outcome) :
      Decided source variant settings tokens outcome [.allTags]

section

variable {source : Repository.Source} {variant : Text} {settings : Settings}
  {tokens : Option (List Pattern.Token)} {pattern : Pattern} {tags : List Tag} {stamp : Stamp}

theorem Stamp.build_configured (settings : Settings) : (configured settings).build = none := by
  rw [configured]
  split <;> rfl

theorem requests_ofSource_of_error {fault : Pattern.Fault}
    (hp : Pattern.ofTokens tokens variant = .error fault) :
    (ofSource source variant settings tokens).requests = [] := by
  rw [ofSource, Pattern.requests_prepare_bind_of_error hp]

theorem requests_ofSource_of_ok (hp : Pattern.ofTokens tokens variant = .ok pattern) :
    (ofSource source variant settings tokens).requests =
      if settings.fromTag then source.allTags.requests else [] := by
  have hrest (found : Option Match) : (do
      Traced.notes (Stamp.notes found variant settings)
      liftM (Stamp.compute found variant settings) : Traced Stamp).requests = [] := by
    rw [Traced.requests_bind_of_silent fun _ ↦ rfl, Traced.requests_notes]
  rw [ofSource, Pattern.requests_prepare_bind_of_ok hp]
  cases settings.fromTag with
  | false => exact hrest none
  | true =>
    dsimp only
    rw [if_pos rfl, if_pos rfl, Traced.requests_bind_of_ok rfl, Traced.requests_bind_of_silent]
    · rfl
    · intro tags
      rw [Traced.requests_bind_of_silent hrest, Match.requests_searchLatest]

theorem outcome_ofSource_recorded :
    (ofSource source.recorded variant settings tokens).outcome =
      (ofSource source variant settings tokens).outcome := by
  cases hp : Pattern.ofTokens tokens variant with
  | error fault => rw [outcome_ofSource_of_error hp, outcome_ofSource_of_error hp]
  | ok pattern =>
    cases hf : settings.fromTag with
    | false => rw [outcome_ofSource_of_configured hp hf, outcome_ofSource_of_configured hp hf]
    | true =>
      rw [outcome_ofSource_of_fromTag hp hf, outcome_ofSource_of_fromTag hp hf,
        source.outcome_allTags_recorded]

theorem chosen_of_hasShortGroups (hk : settings.IsKnown) (hf : settings.fromTag = true)
    (hg : ∀ tag ∈ tags, tag.name.HasShortGroups) :
    Chosen pattern variant settings tags ((Match.searchLatest pattern tags).outcome >>=
      fun found ↦ Stamp.compute found variant settings) := by
  obtain ⟨hlatest, hn⟩ | ⟨best, hlatest, tag, ht, hmatch⟩ := Match.searchLatest_cases hg
  · rw [hlatest, ok_bind, Stamp.compute_none hf]
    cases hstub : settings.stubFallback with
    | false => exact .missing hn hstub
    | true =>
      obtain ⟨stamp, hs, hof⟩ := exists_ofBuild hk (Build.isSmall_stub variant)
      rw [if_pos rfl, hs]
      exact .stub hn hstub hof
  · obtain ⟨position, -, -, hbest, -⟩ := Match.exists_isLatest hlatest
    have hsmall := Build.isSmall_ofMatch hmatch (hg tag ht) variant
    obtain ⟨stamp, hs, hof⟩ := exists_ofBuild hk hsmall
    rw [hlatest, ok_bind, Stamp.compute_some hf, hs]
    exact .tagged hbest hof

theorem decided_ofSource (hk : settings.IsKnown) :
    Decided source variant settings tokens (ofSource source variant settings tokens).outcome
      (ofSource source.recorded variant settings tokens).requests := by
  cases hp : Pattern.ofTokens tokens variant with
  | error fault =>
    rw [outcome_ofSource_of_error hp, requests_ofSource_of_error hp]
    exact .malformed hp
  | ok pattern =>
    rw [requests_ofSource_of_ok hp]
    cases hf : settings.fromTag with
    | false =>
      rw [outcome_ofSource_of_configured hp hf, Stamp.configured]
      cases hd : settings.defaultsFallback with
      | true => exact .configured hp hf hd
      | false => exact .unset hp hf hd
    | true =>
      rw [if_pos rfl, Repository.Source.requests_allTags_recorded]
      cases ht : source.allTags.outcome with
      | error failure =>
        rw [outcome_ofSource_of_fromTag hp hf, ht, error_bind]
        exact .unlisted hp hf ht
      | ok tags =>
        rw [outcome_ofSource_of_fromTag hp hf, ht, ok_bind]
        exact .listed hp hf ht (chosen_of_hasShortGroups hk hf)

/-- With known strategies and tag names of short groups, a version is found unless there is no tag or
the source does not answer. -/
theorem failsOnly_ofSource (hk : settings.IsKnown) (hg : source.HasShortGroups)
    (hp : Pattern.ofTokens tokens variant = .ok pattern) :
    FailsOnly (fun failure ↦ failure = .noTag variant ∨ source.allTags.outcome = .error failure)
      (ofSource source variant settings tokens).outcome := by
  intro failure h
  have hd : Decided source variant settings tokens (.error failure)
      (ofSource source.recorded variant settings tokens).requests := h ▸ decided_ofSource hk
  generalize (ofSource source.recorded variant settings tokens).requests = requests at hd
  cases hd with
  | malformed hp' =>
    rw [hp] at hp'
    cases hp'
  | unlisted _ _ ht => exact .inr ht
  | listed _ _ ht hc =>
    cases hc (hg _ ht) with
    | missing _ _ => exact .inl rfl

theorem build_eq_none_iff (h : (ofSource source variant settings tokens).outcome = .ok stamp) :
    stamp.build = none ↔ settings.fromTag = false := by
  cases hp : Pattern.ofTokens tokens variant with
  | error fault =>
    rw [outcome_ofSource_of_error hp] at h
    cases h
  | ok pattern =>
    cases hf : settings.fromTag with
    | false =>
      rw [outcome_ofSource_of_configured hp hf] at h
      obtain rfl := Except.ok.inj h
      exact iff_of_true (Stamp.build_configured settings) rfl
    | true =>
      rw [outcome_ofSource_of_fromTag hp hf] at h
      obtain ⟨tags, -, h⟩ := bind_eq_ok_iff.1 h
      obtain ⟨found, -, h⟩ := bind_eq_ok_iff.1 h
      simp [Stamp.build_of_compute hf h]

end

/-- A version is decided by the table of `Decided`: the pattern is checked before the source is
asked, and the source is asked once, for its tags, where versions come from them. There is no build
exactly if they do not, and the stub is never taken where a tag matches. -/
theorem version_decided (source : Repository.Source) (variant : Text) (settings : Settings)
    (tokens : Option (List Pattern.Token)) (hk : settings.IsKnown) :
    (ofSource source.recorded variant settings tokens).outcome =
      (ofSource source variant settings tokens).outcome ∧
    Decided source variant settings tokens (ofSource source variant settings tokens).outcome
      (ofSource source.recorded variant settings tokens).requests ∧
    (∀ stamp, (ofSource source variant settings tokens).outcome = .ok stamp →
      (stamp.build = none ↔ settings.fromTag = false)) ∧
    ∀ pattern tags, Pattern.ofTokens tokens variant = .ok pattern → settings.fromTag = true →
      source.allTags.outcome = .ok tags → (∀ tag ∈ tags, tag.name.HasShortGroups) →
      (∃ tag ∈ tags, pattern.read tag.name ≠ .ok none) →
        ∃ best stamp, (ofSource source variant settings tokens).outcome = .ok stamp ∧
          IsLatest (placed pattern tags) (fun _ ↦ True) best ∧
          stamp.IsOf settings (Build.ofMatch best.1 variant) := by
  refine ⟨outcome_ofSource_recorded, decided_ofSource hk, fun stamp ↦ build_eq_none_iff, ?_⟩
  rintro pattern tags hp hf ht hg ⟨tag, hm, hread⟩
  rw [outcome_ofSource_of_fromTag hp hf, ht, ok_bind]
  generalize he : ((Match.searchLatest pattern tags).outcome >>= fun found ↦
    Stamp.compute found variant settings) = outcome
  have hc : Chosen pattern variant settings tags outcome :=
    he ▸ chosen_of_hasShortGroups hk hf hg
  cases hc with
  | tagged hb hs => exact ⟨_, _, rfl, hb, hs⟩
  | stub hn _ _ => exact absurd (hn tag hm) hread
  | missing hn _ => exact absurd (hn tag hm) hread

def variedTags : List Tag :=
  [⟨"v1.0.5-debug", "a", [], 0⟩, ⟨"v2.0.9-release", "b", [], 1⟩, ⟨"v1.1.7-debug", "c", [], 2⟩]

theorem debug_version_decided :
    let source : Repository.Source := .prepared (.ok variedTags) (.ok [])
    ∃ pattern best stamp, Pattern.ofTokens none "debug" = .ok pattern ∧
      (ofSource source "debug" {} none).outcome = .ok stamp ∧
      Decided source "debug" {} none (.ok stamp) [.allTags] ∧ stamp.build ≠ none ∧
      IsLatest (placed pattern variedTags) (fun _ ↦ True) best ∧
      stamp.IsOf {} (Build.ofMatch best.1 "debug") ∧
      stamp = ⟨some 7, some "v1.1.7-debug", some ⟨"v1.1.7-debug", "c", [], "1.1", "debug", 7⟩⟩ := by
  intro source
  let pattern : Pattern := ⟨Pattern.defaultTokens, "debug", by decide, by decide, by decide⟩
  have hp : Pattern.ofTokens none "debug" = .ok pattern := rfl
  obtain ⟨-, hdecided, hbuild, htagged⟩ :=
    version_decided source "debug" {} none ⟨by decide, by decide⟩
  have hg : ∀ tag ∈ variedTags, tag.name.HasShortGroups := by
    intro tag ht
    apply Text.hasShortGroups_of_length_le
    revert tag
    decide
  have hmatch : pattern.read "v1.0.5-debug" ≠ .ok none := by decide +kernel
  obtain ⟨best, stamp, hs, hbest, hof⟩ :=
    htagged pattern variedTags hp rfl rfl hg ⟨_, List.mem_cons_self, hmatch⟩
  have hrequests : (ofSource source.recorded "debug" {} none).requests = [.allTags] :=
    requests_ofSource_of_ok hp
  rw [hs, hrequests] at hdecided
  have hstamp : (ofSource source "debug" {} none).outcome = .ok ⟨some 7, some "v1.1.7-debug",
      some ⟨"v1.1.7-debug", "c", [], "1.1", "debug", 7⟩⟩ := by decide +kernel
  refine ⟨pattern, best, stamp, hp, hs, hdecided, ?_, hbest, hof, Except.ok.inj (hs.symm.trans hstamp)⟩
  rw [ne_eq, hbuild stamp hs]
  decide

end BuildTags.Version
