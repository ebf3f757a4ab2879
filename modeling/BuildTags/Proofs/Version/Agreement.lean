import BuildTags.Proofs.Repository.Stored
import BuildTags.Proofs.Version.Order

namespace BuildTags

def Build.uniform (build : Build) : Build :=
  { build with
    sha := Text.uniformLines build.sha
    message := Text.uniformLines build.message }

namespace Version

def Stamp.uniform (stamp : Stamp) : Stamp := { stamp with build := stamp.build.map Build.uniform }

namespace Stamp

theorem uniform_eq_self_iff {stamp : Stamp} : stamp.uniform = stamp ↔
    ∀ build ∈ stamp.build, '\r' ∉ build.sha ∧ '\r' ∉ build.message := by
  obtain ⟨code, name, build⟩ := stamp
  cases build with
  | none => simp [uniform]
  | some build =>
    obtain ⟨_, sha, message, _, _, _⟩ := build
    simp [uniform, Build.uniform, Text.uniformLines_eq_self_iff]

theorem ofBuild_uniform (build : Build) (settings : Settings) :
    ofBuild build.uniform settings = (ofBuild build settings).map uniform := by
  rw [ofBuild, ofBuild]
  cases CodeStrategy.ofName? settings.codeStrategy with
  | none => rfl
  | some codeStrategy =>
    have hcode : codeStrategy.code build.uniform = codeStrategy.code build := by
      cases codeStrategy <;> rfl
    dsimp only
    rw [hcode]
    cases codeStrategy.code build with
    | error fault => rfl
    | ok code =>
      cases NameStrategy.ofName? settings.nameStrategy with
      | none => rfl
      | some nameStrategy =>
        have hname : nameStrategy.name build.uniform = nameStrategy.name build := by
          cases nameStrategy <;> rfl
        dsimp only
        rw [hname]
        cases nameStrategy.name build <;> rfl

theorem configured_uniform (settings : Settings) :
    (configured settings).uniform = configured settings := by
  rw [configured]
  split <;> rfl

theorem compute_uniform {found found' : Option Match} {variant : Text}
    (h : found'.map (Build.ofMatch · variant) =
      (found.map (Build.ofMatch · variant)).map Build.uniform) (settings : Settings) :
    compute found' variant settings = (compute found variant settings).map uniform := by
  have hstub : (Build.stub variant).uniform = Build.stub variant := rfl
  cases hf : settings.fromTag with
  | false =>
    unfold compute
    rw [hf]
    exact congrArg Except.ok (configured_uniform settings).symm
  | true =>
    cases found with
    | none =>
      obtain rfl : found' = none := Option.map_eq_none_iff.1 h
      rw [compute_none hf]
      split
      · rw [← ofBuild_uniform, hstub]
      · rfl
    | some found =>
      obtain ⟨found', rfl, hbuild⟩ := Option.map_eq_some_iff.1 h
      rw [compute_some hf, compute_some hf, hbuild, ofBuild_uniform]

end Stamp

/-- A source whose tags are those of another one with a line feed for every line end gives the version
of the other one up to line ends, where no name holds a carriage return. -/
theorem outcome_ofSource_uniform {source source' : Repository.Source} {tags : List Tag}
    (hs : source.allTags.outcome = .ok tags)
    (hs' : source'.allTags.outcome = .ok (tags.map Tag.uniform))
    (hn : ∀ tag ∈ tags, '\r' ∉ tag.name) (variant : Text) (settings : Settings)
    (tokens : Option (List Pattern.Token)) :
    (ofSource source' variant settings tokens).outcome =
      (ofSource source variant settings tokens).outcome.map Stamp.uniform := by
  cases hpattern : Pattern.ofTokens tokens variant with
  | error fault =>
    rw [outcome_ofSource_of_error hpattern, outcome_ofSource_of_error hpattern]
    rfl
  | ok pattern =>
    cases hf : settings.fromTag with
    | false =>
      rw [outcome_ofSource_of_configured hpattern hf, outcome_ofSource_of_configured hpattern hf]
      exact congrArg Except.ok (Stamp.configured_uniform settings).symm
    | true =>
      let change : Tag → Tag := fun tag ↦ { tag.uniform with name := tag.name }
      have htags : tags.map Tag.uniform = tags.map change := by
        apply List.map_congr_left
        intro tag ht
        have hname : Text.uniformLines tag.name = tag.name :=
          Text.uniformLines_of_notMem (hn tag ht)
        show tag.uniform = { tag.uniform with name := tag.name }
        rw [← hname]
        rfl
      have hname : ∀ tag, (change tag).name = tag.name := fun _ ↦ rfl
      rw [outcome_ofSource_of_fromTag hpattern hf, outcome_ofSource_of_fromTag hpattern hf, hs, hs',
        ok_bind, ok_bind, htags, Match.outcome_searchLatest_map hname]
      cases (Match.searchLatest pattern tags).outcome with
      | error failure => rfl
      | ok found =>
        apply Stamp.compute_uniform
        rw [Option.map_map, Option.map_map]
        rfl

end Version

namespace Repository

/-- The command lists the tags of the service with a line feed for every line end, where both list them
in one order. In whatever order each of them lists the tags, and for names without carriage returns,
they give the same version up to the line ends in the commit and the message of its build, or fail
alike, for a variant no two of whose tags share a build number. -/
theorem sources_agree {listed listed' : List StoredTag} (h : ∀ stored ∈ listed, stored.IsProper)
    (hp : listed.Perm listed') {git : GitAnswers} {answers : ServiceAnswers} (hg : git.Lists listed)
    (hs : answers.Lists listed') {token repository : Text} {service : Source}
    (hopened : (serviceSource token repository answers).outcome = .ok service) (folder : Text) :
    (gitSource folder git).allTags.outcome =
      .ok ((listed.mapIdx StoredTag.tag).map Tag.uniform) ∧
    service.allTags.outcome = .ok (listed'.mapIdx StoredTag.tag) ∧
    (listed = listed' →
      ((gitSource folder git).allTags.outcome = service.allTags.outcome ↔
        ∀ stored ∈ listed, ∀ text ∈ stored.shown, '\r' ∉ text)) ∧
    ∀ (variant : Text) (tokens : Option (List Pattern.Token)),
      (∀ stored ∈ listed, stored.name.HasShortGroups ∧ '\r' ∉ stored.name) →
      (∀ pattern, Pattern.ofTokens tokens variant = .ok pattern →
        pattern.TellsApart (listed.map StoredTag.name)) →
      ∀ settings,
        (Version.ofSource (gitSource folder git) variant settings tokens).outcome =
          (Version.ofSource service variant settings tokens).outcome.map Version.Stamp.uniform ∧
        ((Version.ofSource (gitSource folder git) variant settings tokens).outcome =
            (Version.ofSource service variant settings tokens).outcome ↔
          ∀ stamp, (Version.ofSource service variant settings tokens).outcome = .ok stamp →
            ∀ build ∈ stamp.build, '\r' ∉ build.sha ∧ '\r' ∉ build.message) := by
  have hgit := outcome_allTags_gitSource hg h folder
  have hservice : service.allTags.outcome = .ok (listed'.mapIdx StoredTag.tag) := by
    rw [eq_of_outcome_serviceSource hopened]
    exact outcome_allTags_service hs repository
  refine ⟨hgit, hservice, ?_, ?_⟩
  · rintro rfl
    rw [hgit, hservice, Except.ok.injEq, StoredTag.map_uniform_eq_self_iff]
  · intro variant tokens hnames hnumbers settings
    -- the tags of the service as they are, in the order of the command
    let asked : Source := ⟨pure (listed.mapIdx StoredTag.tag), service.commitsBetween⟩
    have hasked : asked.allTags.outcome = .ok (listed.mapIdx StoredTag.tag) := rfl
    have hreturns : ∀ tag ∈ listed.mapIdx StoredTag.tag, '\r' ∉ tag.name :=
      (StoredTag.forall_name_mapIdx_iff ('\r' ∉ ·)).2 fun stored hm ↦ (hnames stored hm).2
    have horder : (Version.ofSource asked variant settings tokens).outcome =
        (Version.ofSource service variant settings tokens).outcome := by
      apply Version.outcome_ofSource_congr hasked hservice
      · rw [StoredTag.map_unplaced_mapIdx, StoredTag.map_unplaced_mapIdx]
        exact hp.map _
      · exact (StoredTag.forall_name_mapIdx_iff _).2 fun stored hm ↦ (hnames stored hm).1
      · exact (StoredTag.forall_name_mapIdx_iff _).2 fun stored hm ↦
          (hnames stored (hp.mem_iff.2 hm)).1
      · intro pattern hpattern
        rw [StoredTag.map_name_mapIdx]
        exact hnumbers pattern hpattern
    have huniform := Version.outcome_ofSource_uniform hasked hgit hreturns variant settings tokens
    rw [horder] at huniform
    refine ⟨huniform, ?_⟩
    rw [huniform, map_eq_self_iff]
    exact forall₂_congr fun stamp _ ↦ Version.Stamp.uniform_eq_self_iff

def tagsByAge : GitAnswers where
  tags := .printed 0 ("refs/tags/v1.0.10-debug\x1fa0\x1fb0\x1fTenth\r\n\r\nbuild\n\x1e\n" ++
    "refs/tags/v1.0.9-debug\x1fb9\x1f\x1fWork\n\x1e\n") []
  log := .printed 0 [] []

def tagsByName : ServiceAnswers where
  repository := .ok ()
  references := .ok [⟨"refs/tags/v1.0.9-debug", "b9", "commit"⟩,
    ⟨"refs/tags/v1.0.10-debug", "a0", "tag"⟩]
  annotatedTag _ := .ok ⟨"b0", some "Tenth\r\n\r\nbuild\n"⟩
  comparison := .ok []
  history := .ok []

theorem annotated_and_lightweight_agree :
    ∃ service, (serviceSource "token" "owner/name" tagsByName).outcome = .ok service ∧
      (gitSource "." tagsByAge).allTags.outcome =
        .ok [⟨"v1.0.10-debug", "b0", "Tenth\n\nbuild", 0⟩, ⟨"v1.0.9-debug", "b9", [], 1⟩] ∧
      service.allTags.outcome =
        .ok [⟨"v1.0.9-debug", "b9", [], 0⟩,
          ⟨"v1.0.10-debug", "b0", "Tenth\r\n\r\nbuild", 1⟩] ∧
      (Version.ofSource (gitSource "." tagsByAge) "debug" {} none).outcome =
        .ok ⟨some 10, some "v1.0.10-debug",
          some ⟨"v1.0.10-debug", "b0", "Tenth\n\nbuild", "1.0", "debug", 10⟩⟩ ∧
      ∀ settings, (Version.ofSource (gitSource "." tagsByAge) "debug" settings none).outcome =
        (Version.ofSource service "debug" settings none).outcome.map Version.Stamp.uniform := by
  let tenth : StoredTag := .annotated "v1.0.10-debug" "a0" "b0" "Tenth\r\n\r\nbuild\n"
  let ninth : StoredTag := .lightweight "v1.0.9-debug" "b9" "Work\n"
  have hproper : ∀ stored ∈ [tenth, ninth], stored.IsProper := by
    intro stored hm
    obtain rfl | rfl : stored = tenth ∨ stored = ninth := by simpa using hm
    · exact ⟨by decide, by decide⟩
    · exact ⟨by decide, by decide⟩
  have hlists : tagsByAge.Lists [tenth, ninth] := ⟨[], by decide⟩
  have hanswers : tagsByName.Lists [ninth, tenth] := by
    refine ⟨rfl, fun stored hm ↦ ?_⟩
    obtain rfl | rfl : stored = ninth ∨ stored = tenth := by simpa using hm
    · trivial
    · exact ⟨some "Tenth\r\n\r\nbuild\n", rfl, rfl⟩
  have hnames : ∀ stored ∈ [tenth, ninth], stored.name.HasShortGroups ∧ '\r' ∉ stored.name := by
    intro stored hm
    obtain rfl | rfl : stored = tenth ∨ stored = ninth := by simpa using hm
    · exact ⟨Text.hasShortGroups_of_length_le (by decide), by decide⟩
    · exact ⟨Text.hasShortGroups_of_length_le (by decide), by decide⟩
  have hnumbers : ∀ pattern, Pattern.ofTokens none "debug" = .ok pattern →
      pattern.TellsApart ([tenth, ninth].map StoredTag.name) := by
    intro pattern hp
    have hdebug : Pattern.ofTokens none "debug" =
        .ok ⟨Pattern.defaultTokens, "debug", by decide, by decide, by decide⟩ := rfl
    cases hdebug.symm.trans hp
    show List.Nodup _
    decide +kernel
  have hopened : (serviceSource "token" "owner/name" tagsByName).outcome =
      .ok ⟨Service.allTags "owner/name" tagsByName, Service.commitsBetween tagsByName⟩ := rfl
  obtain ⟨hgit, hservice, -, hversion⟩ :=
    sources_agree hproper (.swap _ _ _) hlists hanswers hopened "."
  refine ⟨_, hopened, hgit.trans ?_, hservice.trans ?_, ?_, fun settings ↦
    (hversion "debug" none hnames hnumbers settings).1⟩
  · decide
  · decide
  · decide +kernel

def printedTag (name message : Text) : GitAnswers where
  tags := .printed 0 (Git.printed
    [Git.recordOf (StoredTag.fields (.annotated name "t1" "c1" message))]) []
  log := .printed 0 [] []

def servedTag (name message : Text) : ServiceAnswers where
  repository := .ok ()
  references := .ok [StoredTag.reference (.annotated name "t1" "c1" message)]
  annotatedTag _ := .ok ⟨"c1", some message⟩
  comparison := .ok []
  history := .ok []

/-- A carriage return in the message of a tag changes the build of the version, and one in the name of
a tag changes which build that is. -/
theorem returns_disagree :
    (∀ stored ∈ [StoredTag.annotated "v1.0.1-debug" "t1" "c1" "a\r\nb",
      .annotated "v1.0.1-debug-\r" "t1" "c1" "a"],
      stored.IsProper ∧ stored.name.HasShortGroups) ∧
    (printedTag "v1.0.1-debug" "a\r\nb").Lists [.annotated "v1.0.1-debug" "t1" "c1" "a\r\nb"] ∧
    (servedTag "v1.0.1-debug" "a\r\nb").Lists [.annotated "v1.0.1-debug" "t1" "c1" "a\r\nb"] ∧
    (printedTag "v1.0.1-debug-\r" "a").Lists [.annotated "v1.0.1-debug-\r" "t1" "c1" "a"] ∧
    (servedTag "v1.0.1-debug-\r" "a").Lists [.annotated "v1.0.1-debug-\r" "t1" "c1" "a"] ∧
    ∃ service service',
      (serviceSource "token" "owner/name" (servedTag "v1.0.1-debug" "a\r\nb")).outcome =
        .ok service ∧
      (serviceSource "token" "owner/name" (servedTag "v1.0.1-debug-\r" "a")).outcome =
        .ok service' ∧
      (gitSource "." (printedTag "v1.0.1-debug" "a\r\nb")).allTags.outcome ≠
        service.allTags.outcome ∧
      (Version.ofSource (gitSource "." (printedTag "v1.0.1-debug" "a\r\nb")) "debug" {} none).outcome ≠
        (Version.ofSource service "debug" {} none).outcome ∧
      (Version.ofSource (gitSource "." (printedTag "v1.0.1-debug-\r" "a")) "debug" {} none).outcome =
        .ok ⟨some 1, some "v0.0.1-debug", some (.stub "debug")⟩ ∧
      (Version.ofSource service' "debug" {} none).outcome =
        .ok ⟨some 1, some "v1.0.1-debug-\r",
          some ⟨"v1.0.1-debug-\r", "c1", "a", "1.0", "debug", 1⟩⟩ := by
  refine ⟨?_, ⟨[], rfl⟩, ⟨rfl, ?_⟩, ⟨[], rfl⟩, ⟨rfl, ?_⟩, _, _, rfl, rfl, ?_, ?_, ?_, ?_⟩
  · intro stored hm
    have hm : stored = StoredTag.annotated "v1.0.1-debug" "t1" "c1" "a\r\nb" ∨
        stored = .annotated "v1.0.1-debug-\r" "t1" "c1" "a" := by simpa using hm
    obtain rfl | rfl := hm
    · exact ⟨⟨by decide, by decide⟩, Text.hasShortGroups_of_length_le (by decide)⟩
    · exact ⟨⟨by decide, by decide⟩, Text.hasShortGroups_of_length_le (by decide)⟩
  · intro stored hm
    rw [List.mem_singleton.1 hm]
    exact ⟨some "a\r\nb", rfl, rfl⟩
  · intro stored hm
    rw [List.mem_singleton.1 hm]
    exact ⟨some "a", rfl, rfl⟩
  · decide
  · decide +kernel
  · decide +kernel
  · decide +kernel

end Repository

end BuildTags
