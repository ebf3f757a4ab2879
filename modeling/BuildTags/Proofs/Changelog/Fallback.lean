import BuildTags.Proofs.Changelog.Source
import BuildTags.Proofs.Repository.Recorded
import BuildTags.Proofs.Tag.Selection

namespace BuildTags.Changelog

open Match (IsLatestBuild placed)

/-- Whether changes are counted up to the latest match, and from the greatest match on another commit
where there is one. -/
structure Spans (pattern : Pattern) (variant : Text) (tags : List Tag) (current : Match)
    (previous : Option Build) : Prop where
  isCurrent : (Match.searchLatest pattern tags).outcome = .ok (some current)
  isPrevious : IsLatestBuild variant (placed pattern tags) (·.1.tag.sha ≠ current.tag.sha) previous

/-- What is told of a variant, and which questions the source is asked for it. -/
inductive Told (source : Repository.Source) (pattern : Pattern) (variant : Text)
    (settings : Settings) : Text → List Repository.Request → Prop
  | unlisted {failure : Failure} (ht : source.allTags.outcome = .error failure) :
      Told source pattern variant settings noChanges [.allTags]
  | untagged {tags : List Tag} (ht : source.allTags.outcome = .ok tags)
      (hn : ∀ tag ∈ tags, pattern.read tag.name = .ok none) :
      Told source pattern variant settings noChanges [.allTags]
  | unlogged {tags : List Tag} {current : Match} {previous : Option Build} {failure : Failure}
      (ht : source.allTags.outcome = .ok tags) (hs : Spans pattern variant tags current previous)
      (hc : (source.commitsBetween (previous.map (·.sha)) current.tag.sha).outcome =
        .error failure) :
      Told source pattern variant settings noChanges
        [.allTags, .commitsBetween (previous.map (·.sha)) current.tag.sha]
  | rendered {tags : List Tag} {current : Match} {previous : Option Build} {commits : List Commit}
      {text : Text} (ht : source.allTags.outcome = .ok tags)
      (hs : Spans pattern variant tags current previous)
      (hc : (source.commitsBetween (previous.map (·.sha)) current.tag.sha).outcome = .ok commits)
      (hr : render (Build.ofMatch current variant) previous (commits.map (·.message)) settings =
        .ok text) :
      Told source pattern variant settings text
        [.allTags, .commitsBetween (previous.map (·.sha)) current.tag.sha]

section

variable {source : Repository.Source} {pattern : Pattern} {variant : Text} {settings : Settings}
  {tokens : Option (List Pattern.Token)} {tags : List Tag} {snapshot : Snapshot}

theorem Spans.sha_ne {current : Match} {previous : Build}
    (h : Spans pattern variant tags current (some previous)) :
    previous.sha ≠ current.tag.sha := by
  obtain ⟨best, hbest, rfl⟩ := h.isPrevious
  exact hbest.isCounted

theorem Told.ne_of_mem {text : Text} {requests : List Repository.Request} {base : Option Text}
    {head : Text} (h : Told source pattern variant settings text requests)
    (hm : .commitsBetween base head ∈ requests) : base ≠ some head := by
  have hne {tags : List Tag} {current : Match} {previous : Option Build}
      (hs : Spans pattern variant tags current previous)
      (hm : Repository.Request.commitsBetween base head ∈
        [.allTags, .commitsBetween (previous.map (·.sha)) current.tag.sha]) : base ≠ some head := by
    obtain ⟨rfl, rfl⟩ : base = previous.map (·.sha) ∧ head = current.tag.sha := by simpa using hm
    cases previous with
    | none => nofun
    | some previous => simpa using hs.sha_ne
  cases h with
  | unlisted _ => simp at hm
  | untagged _ _ => simp at hm
  | unlogged _ hs _ => exact hne hs hm
  | rendered _ hs _ _ => exact hne hs hm

theorem outcome_ofSource_of_error {fault : Pattern.Fault}
    (hp : Pattern.ofTokens tokens variant = .error fault) :
    (ofSource source variant settings tokens).outcome = .error (.pattern fault) := by
  rw [ofSource, Traced.outcome_bind, Pattern.outcome_prepare, hp, mapError_error, error_bind]

theorem requests_ofSource_of_error {fault : Pattern.Fault}
    (hp : Pattern.ofTokens tokens variant = .error fault) :
    (ofSource source variant settings tokens).requests = [] := by
  rw [ofSource, Pattern.requests_prepare_bind_of_error hp]

theorem requests_recover_giveUp (step : Traced (Option History)) (variant : Text) :
    (step.recover (giveUp variant)).requests = step.requests := by
  rw [Traced.recover]
  cases step.outcome with
  | ok found => rfl
  | error failure =>
    cases failure with
    | repository fault =>
      show (step.events ++ [_]).filterMap Event.request? = _
      rw [List.filterMap_append]
      exact List.append_nil _
    | _ => rfl

theorem requests_ofSource_of_ok (hp : Pattern.ofTokens tokens variant = .ok pattern) :
    (ofSource source variant settings tokens).requests = (history source pattern).requests := by
  rw [ofSource, Pattern.requests_prepare_bind_of_ok hp, Traced.requests_bind_of_silent,
    requests_recover_giveUp]
  intro found
  cases found with
  | none => rfl
  | some found =>
    rw [Traced.requests_bind_of_silent fun _ ↦ rfl]
    exact Traced.requests_notes _

theorem requests_history_of_none (ht : source.allTags.outcome = .ok tags)
    (hs : (Snapshot.search pattern tags).outcome = .ok none) :
    (history source pattern).requests = source.allTags.requests := by
  rw [history, Traced.requests_bind_of_ok ht, Traced.requests_bind_of_ok hs,
    Snapshot.requests_search]
  exact List.append_nil _

theorem requests_history_of_some (ht : source.allTags.outcome = .ok tags)
    (hs : (Snapshot.search pattern tags).outcome = .ok (some snapshot)) :
    (history source pattern).requests = source.allTags.requests ++
      (source.commitsBetween (snapshot.previous.map (·.sha)) snapshot.current.sha).requests := by
  rw [history, Traced.requests_bind_of_ok ht, Traced.requests_bind_of_ok hs,
    Snapshot.requests_search, List.nil_append, Traced.requests_bind_of_silent fun _ ↦ rfl]

theorem outcome_history_recorded :
    (history source.recorded pattern).outcome = (history source pattern).outcome := by
  cases ht : source.allTags.outcome with
  | error failure =>
    have hrecorded := source.outcome_allTags_recorded.trans ht
    rw [history, history, Traced.outcome_bind, Traced.outcome_bind, hrecorded, ht, error_bind,
      error_bind]
  | ok tags =>
    rw [outcome_history ht, outcome_history (source.outcome_allTags_recorded.trans ht)]
    rfl

theorem outcome_ofSource_recorded :
    (ofSource source.recorded variant settings tokens).outcome =
      (ofSource source variant settings tokens).outcome := by
  cases hp : Pattern.ofTokens tokens variant with
  | error fault => rw [outcome_ofSource_of_error hp, outcome_ofSource_of_error hp]
  | ok pattern =>
    rw [outcome_ofSource hp, outcome_ofSource hp,
      Traced.outcome_recover_congr outcome_history_recorded]

theorem told_of_unlisted (hs : source.IsPlain) {failure : Failure}
    (hp : Pattern.ofTokens tokens variant = .ok pattern)
    (ht : source.allTags.outcome = .error failure) :
    (ofSource source variant settings tokens).outcome = .ok noChanges ∧
      Told source pattern variant settings noChanges
        (ofSource source.recorded variant settings tokens).requests := by
  have hfailed : (history source pattern).outcome = .error failure := by
    rw [history, Traced.outcome_bind, ht, error_bind]
  have hrecorded := source.outcome_allTags_recorded.trans ht
  rw [requests_ofSource_of_ok hp, history, Traced.requests_bind_of_error hrecorded,
    source.requests_allTags_recorded]
  exact ⟨outcome_ofSource_of_repository settings hp hfailed (hs.allTags failure ht), .unlisted ht⟩

theorem told_of_untagged (hp : Pattern.ofTokens tokens variant = .ok pattern)
    (ht : source.allTags.outcome = .ok tags) (hn : ∀ tag ∈ tags, pattern.read tag.name = .ok none) :
    (ofSource source variant settings tokens).outcome = .ok noChanges ∧
      Told source pattern variant settings noChanges
        (ofSource source.recorded variant settings tokens).requests := by
  have hsearch : (Snapshot.search pattern tags).outcome = .ok none :=
    Match.outcome_search_eq_ok_iff.2
      ⟨[], Match.ofTags_eq_ok_nil_iff.2 hn, Snapshot.ofMatches?_eq_none_iff.2 rfl⟩
  have hsnapshot := Snapshot.ofTags?_of_search hsearch
  have hrecorded := source.outcome_allTags_recorded.trans ht
  rw [requests_ofSource_of_ok hp, requests_history_of_none hrecorded hsearch,
    source.requests_allTags_recorded]
  exact ⟨outcome_ofSource_of_none settings hp ht hsnapshot, .untagged ht hn⟩

theorem told_of_tagged (hs : source.IsPlain) (hf : settings.HasFormat) {current : Match}
    (hp : Pattern.ofTokens tokens variant = .ok pattern) (ht : source.allTags.outcome = .ok tags)
    (hl : (Match.searchLatest pattern tags).outcome = .ok (some current)) :
    ∃ text, (ofSource source variant settings tokens).outcome = .ok text ∧
      Told source pattern variant settings text
        (ofSource source.recorded variant settings tokens).requests := by
  obtain ⟨-, rfl⟩ := Pattern.ofTokens_eq_ok_iff.1 hp
  obtain ⟨position, snapshot, hsearch, -, hof⟩ := Match.exists_isLatest hl
  have hsnapshot := Snapshot.ofTags?_of_search hsearch
  have hspans : Spans pattern pattern.variant tags current snapshot.previous :=
    ⟨hl, hof.predecessorElsewhere⟩
  have hsha : snapshot.current.sha = current.tag.sha := congrArg Build.sha hof.current_eq
  have hrecorded := source.outcome_allTags_recorded.trans ht
  rw [requests_ofSource_of_ok hp, requests_history_of_some hrecorded hsearch, hsha,
    source.requests_allTags_recorded, source.requests_commitsBetween_recorded,
    List.singleton_append]
  cases hc : (source.commitsBetween (snapshot.previous.map (·.sha)) current.tag.sha).outcome with
  | error failure =>
    have hfailed : (history source pattern).outcome = .error failure := by
      rw [← hsha] at hc
      rw [outcome_history ht, hsearch, ok_bind]
      simp only [hc, error_bind]
    exact ⟨noChanges, outcome_ofSource_of_repository settings hp hfailed
      (hs.commitsBetween _ _ failure hc), .unlogged ht hspans hc⟩
  | ok commits =>
    obtain ⟨text, hr⟩ := exists_render hf (Build.ofMatch current pattern.variant)
      snapshot.previous (commits.map (·.message))
    refine ⟨text, ?_, .rendered ht hspans hc hr⟩
    rw [← hsha] at hc
    rw [outcome_ofSource_of_snapshot settings hp ht hsnapshot hc, hof.current_eq, hr]

theorem exists_told (hs : source.IsPlain) (hf : settings.HasFormat) (hg : source.HasShortGroups)
    (hp : Pattern.ofTokens tokens variant = .ok pattern) :
    ∃ text, (ofSource source variant settings tokens).outcome = .ok text ∧
      Told source pattern variant settings text
        (ofSource source.recorded variant settings tokens).requests := by
  cases ht : source.allTags.outcome with
  | error failure => exact ⟨noChanges, told_of_unlisted hs hp ht⟩
  | ok tags =>
    obtain ⟨-, hn⟩ | ⟨current, hl, -⟩ := Match.searchLatest_cases (hg tags ht)
    · exact ⟨noChanges, told_of_untagged hp ht hn⟩
    · exact told_of_tagged hs hf hp ht hl

/-- With a known link format and tag names of short groups there is always a changelog. -/
theorem exists_ofSource (hs : source.IsPlain) (hf : settings.HasFormat) (hg : source.HasShortGroups)
    (hp : Pattern.ofTokens tokens variant = .ok pattern) :
    ∃ text, (ofSource source variant settings tokens).outcome = .ok text := by
  obtain ⟨text, htext, -⟩ := exists_told hs hf hg hp
  exact ⟨text, htext⟩

end

/-- A changelog does not fail: what its source does not answer, and a list without a matching tag, is
told as no change. The source is asked for its tags first, and then at most once for commits: for
those up to the latest match and after the greatest match on another commit. Where there is no
pattern, that is told without asking. -/
theorem changelog_told (source : Repository.Source) (variant : Text) (settings : Settings)
    (tokens : Option (List Pattern.Token)) :
    (ofSource source.recorded variant settings tokens).outcome =
      (ofSource source variant settings tokens).outcome ∧
    (∀ fault, Pattern.ofTokens tokens variant = .error fault →
      (ofSource source variant settings tokens).outcome = .error (.pattern fault) ∧
      (ofSource source.recorded variant settings tokens).requests = []) ∧
    ∀ pattern, Pattern.ofTokens tokens variant = .ok pattern → source.IsPlain →
      settings.HasFormat → source.HasShortGroups →
      ∃ text, (ofSource source variant settings tokens).outcome = .ok text ∧
        Told source pattern variant settings text
          (ofSource source.recorded variant settings tokens).requests ∧
        ∀ base head, .commitsBetween base head ∈
          (ofSource source.recorded variant settings tokens).requests → base ≠ some head := by
  refine ⟨outcome_ofSource_recorded, fun fault hp ↦ ?_, ?_⟩
  · exact ⟨outcome_ofSource_of_error hp, requests_ofSource_of_error hp⟩
  · intro pattern hp hs hf hg
    obtain ⟨text, htext, htold⟩ := exists_told hs hf hg hp
    exact ⟨text, htext, htold, fun base head ↦ htold.ne_of_mem⟩

def sharedTags : List Tag :=
  [⟨"v1.0.5-debug", "a", [], 0⟩, ⟨"v1.0.6-debug", "b", [], 1⟩, ⟨"v1.0.7-debug", "b", [], 2⟩]

/-- The commits of the shared tags are not answered. -/
theorem unlogged_changelog_told :
    let source : Repository.Source := .prepared (.ok sharedTags) (.error (.notStarted "no git"))
    let requests := (ofSource source.recorded "debug" {} none).requests
    ∃ pattern, Pattern.ofTokens none "debug" = .ok pattern ∧
      source.IsPlain ∧ source.HasShortGroups ∧
      (ofSource source "debug" {} none).outcome = .ok "No changes compared to the previous build" ∧
      Told source pattern "debug" {} "No changes compared to the previous build" requests ∧
      .commitsBetween (some "b") "b" ∉ requests := by
  intro source requests
  let pattern : Pattern := ⟨Pattern.defaultTokens, "debug", by decide, by decide, by decide⟩
  have hs : source.IsPlain := ⟨.ok _, fun _ _ ↦ .error ⟨_, rfl⟩⟩
  have hg : source.HasShortGroups := by
    intro tags ht
    obtain rfl : sharedTags = tags := Except.ok.inj ht
    intro tag hm
    apply Text.hasShortGroups_of_length_le
    revert tag
    decide
  obtain ⟨-, -, htold⟩ := changelog_told source "debug" {} none
  obtain ⟨text, htext, htold, hne⟩ := htold pattern rfl hs hasFormat_default hg
  have hnone {requests : List Repository.Request}
      (h : Told source pattern "debug" {} text requests) : text = noChanges := by
    cases h with
    | rendered _ _ hc _ => cases hc
    | _ => rfl
  obtain rfl := hnone htold
  exact ⟨pattern, rfl, hs, hg, htext, htold, fun hm ↦ hne (some "b") "b" hm rfl⟩

end BuildTags.Changelog
