import BuildTags.Proofs.Failure
import BuildTags.Proofs.Tag.Latest
import BuildTags.Version.Search

namespace BuildTags

theorem Pattern.outcome_prepare (tokens : Option (List Token)) (variant : Text) :
    (prepare tokens variant).outcome = (ofTokens tokens variant).mapError Failure.pattern := by
  rw [prepare, Traced.outcome_bind]
  show ((ofTokens tokens variant).mapError Failure.pattern >>= fun pattern ↦ _) = _
  cases ofTokens tokens variant <;> rfl

namespace Version

variable {source : Repository.Source} {variant : Text} {settings : Settings}
  {tokens : Option (List Pattern.Token)} {pattern : Pattern} {build : Build} {stamp : Stamp}

theorem outcome_ofSource_of_error {fault : Pattern.Fault}
    (hp : Pattern.ofTokens tokens variant = .error fault) :
    (ofSource source variant settings tokens).outcome = .error (.pattern fault) := by
  rw [ofSource, Traced.outcome_bind, Pattern.outcome_prepare, hp]
  rfl

theorem outcome_ofSource_of_configured (hp : Pattern.ofTokens tokens variant = .ok pattern)
    (hf : settings.fromTag = false) :
    (ofSource source variant settings tokens).outcome = .ok (.configured settings) := by
  rw [ofSource, Traced.outcome_bind, Pattern.outcome_prepare, hp, mapError_ok, ok_bind]
  simp only [hf, Bool.false_eq_true, if_false, Traced.outcome_bind]
  show (Stamp.compute none variant settings) = _
  rw [Stamp.compute, hf]
  rfl

theorem outcome_ofSource_of_fromTag (hp : Pattern.ofTokens tokens variant = .ok pattern)
    (hf : settings.fromTag = true) : (ofSource source variant settings tokens).outcome =
      source.allTags.outcome >>= fun tags ↦ (Match.searchLatest pattern tags).outcome >>=
        fun found ↦ Stamp.compute found variant settings := by
  rw [ofSource, Traced.outcome_bind, Pattern.outcome_prepare, hp, mapError_ok, ok_bind]
  simp only [hf, if_true, Traced.outcome_bind]
  rfl

theorem Stamp.ofBuild_eq_ok_iff : Stamp.ofBuild build settings = .ok stamp ↔
    ∃ codeStrategy nameStrategy code name,
      CodeStrategy.ofName? settings.codeStrategy = some codeStrategy ∧
      NameStrategy.ofName? settings.nameStrategy = some nameStrategy ∧
      codeStrategy.code build = .ok code ∧ nameStrategy.name build = .ok name ∧
      stamp = ⟨some code, some name, some build⟩ := by
  rw [Stamp.ofBuild]
  constructor
  · intro h
    cases hc : CodeStrategy.ofName? settings.codeStrategy with
    | none =>
      rw [hc] at h
      cases h
    | some codeStrategy =>
      rw [hc] at h
      obtain ⟨code, hcode, h⟩ := bind_eq_ok_iff.1 h
      cases hn : NameStrategy.ofName? settings.nameStrategy with
      | none =>
        rw [hn] at h
        cases h
      | some nameStrategy =>
        rw [hn] at h
        obtain ⟨name, hname, h⟩ := bind_eq_ok_iff.1 h
        exact ⟨codeStrategy, nameStrategy, code, name, rfl, rfl, mapError_eq_ok_iff.1 hcode,
          mapError_eq_ok_iff.1 hname, (Except.ok.inj h).symm⟩
  · rintro ⟨codeStrategy, nameStrategy, code, name, hc, hn, hcode, hname, rfl⟩
    rw [hc]
    refine bind_eq_ok_iff.2 ⟨code, mapError_eq_ok_iff.2 hcode, ?_⟩
    rw [hn]
    exact bind_eq_ok_iff.2 ⟨name, mapError_eq_ok_iff.2 hname, rfl⟩

theorem Stamp.compute_some (hf : settings.fromTag = true) (found : Match) (variant : Text) :
    Stamp.compute (some found) variant settings =
      Stamp.ofBuild (Build.ofMatch found variant) settings := by
  rw [Stamp.compute, hf]
  rfl

theorem Stamp.compute_none (hf : settings.fromTag = true) (variant : Text) :
    Stamp.compute none variant settings =
      if settings.stubFallback then Stamp.ofBuild (Build.stub variant) settings
      else .error (.noTag variant) := by
  rw [Stamp.compute, hf]
  rfl

theorem Stamp.build_of_ofBuild (h : Stamp.ofBuild build settings = .ok stamp) :
    stamp.build = some build := by
  obtain ⟨-, -, code, name, -, -, -, -, rfl⟩ := Stamp.ofBuild_eq_ok_iff.1 h
  rfl

theorem Stamp.build_of_compute {found : Option Match} (hf : settings.fromTag = true)
    (h : Stamp.compute found variant settings = .ok stamp) :
    stamp.build = some ((found.map (Build.ofMatch · variant)).getD (.stub variant)) := by
  cases found with
  | some found =>
    rw [compute_some hf] at h
    exact build_of_ofBuild h
  | none =>
    rw [compute_none hf] at h
    split at h
    · exact build_of_ofBuild h
    · cases h

theorem reports_ofBuild (build : Build) (settings : Settings) :
    Reports (Stamp.ofBuild build settings) := by
  rw [Stamp.ofBuild]
  cases CodeStrategy.ofName? settings.codeStrategy with
  | none => exact .error rfl
  | some codeStrategy =>
    refine .bind (.mapError fun _ ↦ rfl) fun code _ ↦ ?_
    cases NameStrategy.ofName? settings.nameStrategy with
    | none => exact .error rfl
    | some nameStrategy => exact .bind (.mapError fun _ ↦ rfl) fun name _ ↦ .ok _

theorem reports_compute (found : Option Match) (variant : Text) (settings : Settings) :
    Reports (Stamp.compute found variant settings) := by
  unfold Stamp.compute
  split
  · exact .ok _
  · cases found with
    | some found => exact reports_ofBuild _ settings
    | none =>
      simp only
      split
      · exact reports_ofBuild _ settings
      · exact .error rfl

theorem reports_ofSource (hs : Reports source.allTags.outcome) (variant : Text)
    (settings : Settings) (tokens : Option (List Pattern.Token)) :
    Reports (ofSource source variant settings tokens).outcome := by
  cases hp : Pattern.ofTokens tokens variant with
  | error fault =>
    rw [outcome_ofSource_of_error hp]
    exact .error rfl
  | ok pattern =>
    cases hf : settings.fromTag with
    | false =>
      rw [outcome_ofSource_of_configured hp hf]
      exact .ok _
    | true =>
      rw [outcome_ofSource_of_fromTag hp hf]
      refine hs.bind fun tags _ ↦ .bind ?_ fun found _ ↦ reports_compute found variant settings
      rw [Match.outcome_searchLatest]
      exact .mapError fun _ ↦ rfl

end Version

end BuildTags
