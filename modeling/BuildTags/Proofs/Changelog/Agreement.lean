import BuildTags.Proofs.Changelog.LineEnd
import BuildTags.Proofs.Changelog.Source
import BuildTags.Proofs.Pattern.Group
import BuildTags.Proofs.Repository.History

namespace BuildTags

namespace Repository

def gitOver (folder : Text) (tags : Ending) (commits : Option Text → Text → List Commit) :
    Source where
  allTags := (gitSource folder ⟨tags, .printed 0 [] []⟩).allTags
  commitsBetween after upTo :=
    let range := commits (after.filter (· ≠ [])) upTo
    (gitSource folder
      ⟨tags, .printed 0 (Git.printed (range.map Git.commitRecord)) []⟩).commitsBetween after upTo

/-- The service over a history: a comparison has the commits of its range in order, and the history of
a commit begins with the newest one. -/
def serviceOver (repository : Text) (answers : ServiceAnswers)
    (commits : Option Text → Text → List Commit) : Source where
  allTags := Service.allTags repository answers
  commitsBetween after upTo := Service.commitsBetween
    { answers with
      comparison := .ok (commits after upTo), history := .ok (commits none upTo).reverse }
    after upTo

theorem outcome_commitsBetween_gitOver (folder : Text) (tags : Ending)
    (commits : Option Text → Text → List Commit) {after : Option Text}
    (ha : ∀ sha, after = some sha → sha ≠ []) (upTo : Text) :
    ((gitOver folder tags commits).commitsBetween after upTo).outcome =
      .ok (Git.commitsOf (Git.printed
        (((commits after upTo).map Commit.uniform).map Git.commitRecord))) := by
  have huniform : Text.uniformLines (Git.printed ((commits after upTo).map Git.commitRecord)) =
      Git.printed (((commits after upTo).map Commit.uniform).map Git.commitRecord) := by
    rw [Git.uniformLines_printed, List.map_map, List.map_map]
    exact congrArg Git.printed (List.map_congr_left fun commit _ ↦ Git.uniformLines_commitRecord commit)
  have hafter : after.filter (· ≠ []) = after := by
    cases after with
    | none => rfl
    | some sha => simp [ha sha rfl]
  rw [gitOver]
  simp only [hafter, gitSource, Traced.outcome_bind, Git.outcome_run_printed, ok_bind, huniform]
  rfl

theorem map_message_map_uniform (commits : List Commit) :
    (commits.map Commit.uniform).map (·.message) =
      (commits.map (·.message)).map Text.uniformLines := by
  rw [List.map_map, List.map_map]
  rfl

theorem outcome_commitsBetween_serviceOver (repository : Text) (answers : ServiceAnswers)
    (commits : Option Text → Text → List Commit) (after : Option Text) (upTo : Text) :
    ((serviceOver repository answers commits).commitsBetween after upTo).outcome =
      .ok (commits after upTo) := by
  cases after with
  | none =>
    show Except.ok (commits none upTo).reverse.reverse = _
    rw [List.reverse_reverse]
  | some base => rfl

end Repository

namespace Changelog

variable (settings : Settings) {variant : Text} {tokens : Option (List Pattern.Token)}
  {pattern : Pattern} {tags : List Tag}

def NoneToldApart (key : Option Text) (pattern : Pattern) (tags : List Tag)
    (commits : Option Text → Text → List Commit) : Prop :=
  ∀ snapshot, Snapshot.ofTags? pattern tags = .ok (some snapshot) →
    ∀ commit ∈ commits (snapshot.previous.map (·.sha)) snapshot.current.sha,
      ¬IsToldApart key commit.message

/-- Over one history and with the same tags, the command and the service give the same changelog if no
message of the range is told apart: the command hands messages over trimmed and with a line feed for
every line end, and the service as they are. They give another one if a message is, unless the
addresses of issues hold carriage returns and there is no key. -/
theorem texts_agree_iff {folder repository : Text} {git : Repository.Ending}
    {answers : Repository.ServiceAnswers} {commits : Option Text → Text → List Commit}
    (hgit : (Repository.gitOver folder git commits).allTags.outcome = .ok tags)
    (hservice : (Repository.serviceOver repository answers commits).allTags.outcome = .ok tags)
    (hshas : ∀ tag ∈ tags, tag.sha ≠ []) (hgroups : ∀ tag ∈ tags, tag.name.HasShortGroups)
    (hcommits : ∀ after upTo, ∀ commit ∈ commits after upTo, commit.IsProper)
    (hf : settings.HasFormat) (hp : Pattern.ofTokens tokens variant = .ok pattern) :
    ∃ text text',
      (ofSource (Repository.gitOver folder git commits) variant settings tokens).outcome = .ok text ∧
      (ofSource (Repository.serviceOver repository answers commits) variant settings tokens).outcome =
        .ok text' ∧
      (NoneToldApart settings.key pattern tags commits → text = text') ∧
      ((settings.key = none ∨ settings.key = some [] → '\r' ∉ settings.urlStart) →
        text = text' → NoneToldApart settings.key pattern tags commits) := by
  have hsnapshot : ∃ found, Snapshot.ofTags? pattern tags = .ok found := by
    rw [Snapshot.ofTags?, Match.ofTags_of_hasShortGroups hgroups]
    exact ⟨_, rfl⟩
  obtain ⟨found, hs⟩ := hsnapshot
  cases found with
  | none =>
    refine ⟨noChanges, noChanges, outcome_ofSource_of_none settings hp hgit hs,
      outcome_ofSource_of_none settings hp hservice hs, fun _ ↦ rfl, fun _ _ snapshot hs' ↦ ?_⟩
    rw [hs] at hs'
    cases hs'
  | some snapshot =>
    have hbase : ∀ sha, snapshot.previous.map (·.sha) = some sha → sha ≠ [] := by
      intro sha hsha
      obtain ⟨build, hb, rfl⟩ := Option.map_eq_some_iff.1 hsha
      obtain ⟨tag, ht, he⟩ := Snapshot.exists_of_previous hs hb
      exact he ▸ hshas tag ht
    have hproper : ∀ commit ∈ (commits (snapshot.previous.map (·.sha)) snapshot.current.sha).map
        Commit.uniform, commit.IsProper := by
      rw [List.forall_mem_map]
      exact fun commit hc ↦ (hcommits _ _ commit hc).uniform
    have htext := outcome_ofSource_of_snapshot settings hp hgit hs
      (Repository.outcome_commitsBetween_gitOver folder git commits hbase snapshot.current.sha)
    have htext' := outcome_ofSource_of_snapshot settings hp hservice hs
      (Repository.outcome_commitsBetween_serviceOver repository answers commits _ _)
    obtain ⟨line, hline, hlines⟩ := exists_bulletLines_eq_map hf
    rw [render_eq_body (hlines _), Repository.entries_commitsOf_printed hproper,
      Repository.map_message_map_uniform] at htext
    rw [render_eq_body (hlines _)] at htext'
    refine ⟨_, _, htext, htext', fun h ↦ ?_, fun hu he snapshot' hs' ↦ ?_⟩
    · rw [(entries_handedOver_eq_iff _ _).2 (List.forall_mem_map.2 (h snapshot hs))]
    · rw [hs] at hs'
      obtain rfl := Option.some.inj (Except.ok.inj hs')
      have hentries := entries_handedOver_eq_of_body_eq hline hlines hf hu he
      rw [entries_handedOver_eq_iff, List.forall_mem_map] at hentries
      exact hentries

def onePrinted : Repository.Ending := .printed 0 "refs/tags/v1.0.1-debug\x1fc1\x1f\x1fWork\n\x1e\n" []

def oneListed : Repository.ServiceAnswers where
  repository := .ok ()
  references := .ok [⟨"refs/tags/v1.0.1-debug", "c1", "commit"⟩]
  annotatedTag _ := .error ⟨404, .null, none⟩
  comparison := .ok []
  history := .ok []

def oneCommit (message : Text) : Option Text → Text → List Commit := fun _ _ => [⟨"c1", message⟩]

/-- A blank before the key hides an entry from the service alone, and a carriage return is told by the
service alone. -/
theorem indented_texts_differ :
    (∃ text text',
      (ofSource (Repository.gitOver "." onePrinted (oneCommit " CHANGELOG: Fix")) "debug"
        { key := some "CHANGELOG" } none).outcome = .ok text ∧
      (ofSource (Repository.serviceOver "owner/name" oneListed (oneCommit " CHANGELOG: Fix")) "debug"
        { key := some "CHANGELOG" } none).outcome = .ok text' ∧
      text ≠ text') ∧
    ∃ text text',
      (ofSource (Repository.gitOver "." onePrinted (oneCommit "a\r\nb")) "debug" {} none).outcome =
        .ok text ∧
      (ofSource (Repository.serviceOver "owner/name" oneListed (oneCommit "a\r\nb")) "debug" {}
        none).outcome = .ok text' ∧
      text ≠ text' := by
  let tag : Tag := ⟨"v1.0.1-debug", "c1", [], 0⟩
  let pattern : Pattern := ⟨Pattern.defaultTokens, "debug", by decide, by decide, by decide⟩
  have hshas : ∀ tag' ∈ [tag], tag'.sha ≠ [] := by decide
  have hgroups : ∀ tag' ∈ [tag], tag'.name.HasShortGroups := by
    intro tag' ht
    rw [List.mem_singleton.1 ht]
    exact Text.hasShortGroups_of_length_le (by decide)
  have hsnapshot : ∃ snapshot, Snapshot.ofTags? pattern [tag] = .ok (some snapshot) :=
    ⟨⟨⟨"v1.0.1-debug", "c1", [], "1.0", "debug", 1⟩, none, none⟩, by decide +kernel⟩
  have hpattern : Pattern.ofTokens none "debug" = .ok pattern := rfl
  have differs : ∀ (key : Option Text) (message : Text), (Commit.mk "c1" message).IsProper →
      IsToldApart key message → ∃ text text',
        (ofSource (Repository.gitOver "." onePrinted (oneCommit message)) "debug" { key := key }
          none).outcome = .ok text ∧
        (ofSource (Repository.serviceOver "owner/name" oneListed (oneCommit message)) "debug"
          { key := key } none).outcome = .ok text' ∧
        text ≠ text' := by
    intro key message hproper htold
    have hcommits : ∀ after upTo, ∀ commit ∈ oneCommit message after upTo, commit.IsProper := by
      intro after upTo commit hm
      rw [List.mem_singleton.1 hm]
      exact hproper
    have hgit : (Repository.gitOver "." onePrinted (oneCommit message)).allTags.outcome =
        .ok [tag] := by
      show (Repository.gitSource "." ⟨onePrinted, .printed 0 [] []⟩).allTags.outcome = _
      decide
    have hservice : (Repository.serviceOver "owner/name" oneListed
        (oneCommit message)).allTags.outcome = .ok [tag] := by
      show (Repository.Service.allTags "owner/name" oneListed).outcome = _
      decide
    obtain ⟨text, text', h, h', -, hiff⟩ := texts_agree_iff { key := key } hgit hservice hshas
      hgroups hcommits hasFormat_default hpattern
    refine ⟨text, text', h, h', fun he ↦ ?_⟩
    obtain ⟨snapshot, hs⟩ := hsnapshot
    exact hiff (fun _ ↦ List.not_mem_nil) he snapshot hs _ List.mem_cons_self htold
  constructor
  · apply differs
    · exact ⟨by decide, by decide⟩
    · exact .shifted ⟨"CHANGELOG", rfl, by decide, by decide, .inl (by decide)⟩
  · apply differs none
    · exact ⟨by decide, by decide⟩
    · exact .returned (.inl rfl) (by decide)

end Changelog

end BuildTags
