import BuildTags.Changelog.History
import BuildTags.Proofs.Repository.Source
import BuildTags.Proofs.Version.Search

namespace BuildTags.Changelog

variable {settings : Settings}

def Settings.HasFormat (settings : Settings) : Prop :=
  (LinkFormat.ofName? settings.linkFormat).isSome = true

theorem hasFormat_default : ({} : Settings).HasFormat := by
  rw [Settings.HasFormat]
  decide

theorem exists_withLinks (hf : settings.HasFormat) (text : Text) :
    ∃ linked, withLinks settings text = .ok linked := by
  obtain ⟨format, he⟩ := Option.isSome_iff_exists.1 hf
  rw [withLinks, he]
  exact ⟨_, rfl⟩

theorem exists_bulletLines (hf : settings.HasFormat) (entries : List Text) :
    ∃ lines, bulletLines settings entries = .ok lines := by
  induction entries with
  | nil => exact ⟨[], rfl⟩
  | cons entry entries ih =>
    obtain ⟨linked, hl⟩ := exists_withLinks hf entry
    obtain ⟨rest, hr⟩ := ih
    exact ⟨_, by rw [bulletLines, hl, hr]; rfl⟩

theorem exists_render (hf : settings.HasFormat) (current : Build) (previous : Option Build)
    (messages : List Text) : ∃ text, render current previous messages settings = .ok text := by
  obtain ⟨lines, hl⟩ := exists_bulletLines hf (entries settings.key messages)
  rw [render, hl, ok_bind]
  cases lines with
  | nil => cases previous <;> exact ⟨_, rfl⟩
  | cons line lines => exact ⟨_, rfl⟩

theorem reports_history {source : Repository.Source} (hs : source.IsReported) (pattern : Pattern) :
    Reports (history source pattern).outcome := by
  refine .traced hs.allTags fun tags _ ↦ .traced ?_ fun snapshot _ ↦ ?_
  · rw [Snapshot.outcome_search]
    exact .mapError fun _ ↦ rfl
  · cases snapshot with
    | none => exact .traced (.ok _) fun _ _ ↦ .ok _
    | some snapshot => exact .traced (hs.commitsBetween _ _) fun _ _ ↦ .ok _

theorem reports_recover {step : Traced (Option History)} (h : Reports step.outcome)
    (variant : Text) : Reports (step.recover (giveUp variant)).outcome := by
  rw [Traced.recover]
  cases ho : step.outcome with
  | ok found => exact h
  | error failure =>
    cases failure with
    | repository fault => exact .ok none
    | _ => exact h

theorem reports_ofSource {source : Repository.Source} (hs : source.IsReported)
    (hf : settings.HasFormat) (variant : Text) (tokens : Option (List Pattern.Token)) :
    Reports (ofSource source variant settings tokens).outcome := by
  refine .traced ?_ fun pattern _ ↦ .traced ?_ fun found _ ↦ ?_
  · rw [Pattern.outcome_prepare]
    exact .mapError fun _ ↦ rfl
  · exact reports_recover (reports_history hs pattern) variant
  · cases found with
    | none => exact .ok _
    | some found =>
      obtain ⟨text, ht⟩ := exists_render hf found.snapshot.current found.snapshot.previous
        (found.commits.map (·.message))
      refine .traced (.ok _) fun _ _ ↦ ?_
      show Reports (render _ _ _ _)
      rw [ht]
      exact .ok text

end BuildTags.Changelog
