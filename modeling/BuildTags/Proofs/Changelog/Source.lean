import BuildTags.Proofs.Changelog.History

namespace BuildTags

def Failure.IsRepository (failure : Failure) : Prop := ∃ fault, failure = .repository fault

structure Repository.Source.IsPlain (source : Source) : Prop where
  allTags : FailsOnly Failure.IsRepository source.allTags.outcome
  commitsBetween : ∀ after upTo,
    FailsOnly Failure.IsRepository (source.commitsBetween after upTo).outcome

namespace Changelog

variable {source : Repository.Source} {settings : Settings} {variant : Text}
  {tokens : Option (List Pattern.Token)} {pattern : Pattern} {tags : List Tag}

theorem outcome_ofSource (hp : Pattern.ofTokens tokens variant = .ok pattern) :
    (ofSource source variant settings tokens).outcome =
      ((history source pattern).recover (giveUp variant)).outcome >>= fun found ↦
        match found with
        | none => .ok noChanges
        | some found => render found.snapshot.current found.snapshot.previous
            (found.commits.map (·.message)) settings := by
  rw [ofSource, Traced.outcome_bind, Pattern.outcome_prepare, hp, mapError_ok, ok_bind,
    Traced.outcome_bind]
  congr 1
  funext found
  cases found <;> rfl

theorem outcome_history (ht : source.allTags.outcome = .ok tags) :
    (history source pattern).outcome =
      (Snapshot.search pattern tags).outcome >>= fun snapshot ↦
        match snapshot with
        | none => .ok none
        | some snapshot =>
          (source.commitsBetween (snapshot.previous.map (·.sha)) snapshot.current.sha).outcome >>=
            fun commits ↦ .ok (some ⟨snapshot, commits⟩) := by
  rw [history, Traced.outcome_bind, ht, ok_bind, Traced.outcome_bind]
  congr 1
  funext snapshot
  cases snapshot with
  | none => rfl
  | some snapshot =>
    simp only [Traced.outcome_bind]
    rfl

theorem recover_giveUp_of_ok {found : Option History}
    (h : (history source pattern).outcome = .ok found) :
    ((history source pattern).recover (giveUp variant)).outcome = .ok found := by
  rw [Traced.recover, h]
  exact h

theorem recover_giveUp_of_repository {failure : Failure}
    (h : (history source pattern).outcome = .error failure) (hr : failure.IsRepository) :
    ((history source pattern).recover (giveUp variant)).outcome = .ok none := by
  obtain ⟨fault, rfl⟩ := hr
  rw [Traced.recover, h]
  rfl

theorem outcome_ofSource_of_none (settings : Settings)
    (hp : Pattern.ofTokens tokens variant = .ok pattern) (ht : source.allTags.outcome = .ok tags)
    (hs : Snapshot.ofTags? pattern tags = .ok none) :
    (ofSource source variant settings tokens).outcome = .ok noChanges := by
  have hfound : (history source pattern).outcome = .ok none := by
    rw [outcome_history ht, Snapshot.outcome_search, hs]
    rfl
  rw [outcome_ofSource hp, recover_giveUp_of_ok hfound]
  rfl

theorem outcome_ofSource_of_snapshot (settings : Settings) {snapshot : Snapshot}
    {commits : List Commit} (hp : Pattern.ofTokens tokens variant = .ok pattern)
    (ht : source.allTags.outcome = .ok tags)
    (hs : Snapshot.ofTags? pattern tags = .ok (some snapshot))
    (hc : (source.commitsBetween (snapshot.previous.map (·.sha)) snapshot.current.sha).outcome =
      .ok commits) : (ofSource source variant settings tokens).outcome =
        render snapshot.current snapshot.previous (commits.map (·.message)) settings := by
  have hfound : (history source pattern).outcome = .ok (some ⟨snapshot, commits⟩) := by
    rw [outcome_history ht, Snapshot.outcome_search, hs, mapError_ok, ok_bind]
    simp only [hc]
    rfl
  rw [outcome_ofSource hp, recover_giveUp_of_ok hfound]
  rfl

/-- A source that does not list its tags, or not the commits between builds, leaves nothing to
tell. -/
theorem outcome_ofSource_of_repository (settings : Settings) {failure : Failure}
    (hp : Pattern.ofTokens tokens variant = .ok pattern)
    (h : (history source pattern).outcome = .error failure) (hr : failure.IsRepository) :
    (ofSource source variant settings tokens).outcome = .ok noChanges := by
  rw [outcome_ofSource hp, recover_giveUp_of_repository h hr]
  rfl

end Changelog

end BuildTags
