import BuildTags.Proofs.Changelog.Fallback
import BuildTags.Proofs.Configuration.Reader
import BuildTags.Proofs.Version.Decision

namespace BuildTags

def Pattern.Fault.TellsOf (variant : Text) (tokens : List Token) : Fault → Prop
  | .emptyVariant => variant = []
  | .versionCount count => count = tokens.count .buildVersion ∧ count ≠ 1
  | .variantCount count => count = tokens.count .buildVariantName ∧ count ≠ 1
  | _ => False

theorem Pattern.tellsOf_of_ofTokens {tokens : Option (List Token)} {variant : Text} {fault : Fault}
    (h : ofTokens tokens variant = .error fault) :
    fault.TellsOf variant (tokens.getD defaultTokens) := by
  have h : ofTokens (some (tokens.getD defaultTokens)) variant = .error fault := h
  rcases ofTokens_eq_error_iff.1 h with ⟨hv, rfl⟩ | ⟨-, hc, rfl⟩ | ⟨-, -, hc, rfl⟩
  · exact hv
  · exact ⟨rfl, hc⟩
  · exact ⟨rfl, hc⟩

theorem Pattern.prepare_of_error {tokens : Option (List Token)} {variant : Text} {fault : Fault}
    (h : ofTokens tokens variant = .error fault) :
    prepare tokens variant = Traced.fail (.pattern fault) := by
  rw [prepare, h]
  rfl

namespace Configuration

variable {host : Host} {name variant : Text} {value : Json.Value} {members : Members} {output : Output}
  {outputs : List (Text × Output)} {configuration : Configuration}

theorem isKnown_default : ({} : Version.Settings).IsKnown := ⟨by decide, by decide⟩

theorem isKnown_of_outputOfJson (h : Output.ofJson name value = .ok output) :
    output.version.IsKnown := by
  cases value with
  | object members =>
    obtain ⟨codeStrategy, hcode, h⟩ := bind_eq_ok_iff.1 h
    obtain ⟨nameStrategy, hname, h⟩ := bind_eq_ok_iff.1 h
    obtain ⟨tokens, -, h⟩ := bind_eq_ok_iff.1 h
    obtain ⟨fromTag, -, h⟩ := bind_eq_ok_iff.1 h
    obtain ⟨stubFallback, -, h⟩ := bind_eq_ok_iff.1 h
    obtain ⟨defaultsFallback, -, h⟩ := bind_eq_ok_iff.1 h
    obtain ⟨defaultCode, -, h⟩ := bind_eq_ok_iff.1 h
    obtain ⟨defaultName, -, h⟩ := bind_eq_ok_iff.1 h
    obtain ⟨baseFileName, -, h⟩ := bind_eq_ok_iff.1 h
    obtain rfl := Except.ok.inj h
    have hcodes : ∀ name ∈ Version.CodeStrategy.named.map (·.1),
        (Version.CodeStrategy.ofName? name).isSome = true := by decide
    have hnames : ∀ name ∈ Version.NameStrategy.named.map (·.1),
        (Version.NameStrategy.ofName? name).isSome = true := by decide
    constructor
    · exact hcodes _ (mem_of_nameOr (mapError_eq_ok_iff.1 hcode))
    · exact hnames _ (mem_of_nameOr (mapError_eq_ok_iff.1 hname))
  | _ => cases h

theorem isKnown_of_outputsOfJson (h : outputsOfJson members = .ok outputs) :
    ∀ entry ∈ outputs, entry.2.version.IsKnown := by
  induction members generalizing outputs with
  | nil =>
    obtain rfl := Except.ok.inj h
    nofun
  | cons member members ih =>
    obtain ⟨output, ho, h⟩ := bind_eq_ok_iff.1 h
    obtain ⟨rest, hr, h⟩ := bind_eq_ok_iff.1 h
    obtain rfl := Except.ok.inj h
    exact List.forall_mem_cons.2 ⟨isKnown_of_outputOfJson ho, ih hr⟩

theorem isKnown_of_mem_outputs (h : ofJson value host = .ok configuration) :
    ∀ entry ∈ configuration.outputs, entry.2.version.IsKnown := by
  cases value with
  | object members =>
    rw [ofJson_object] at h
    obtain ⟨outputs, ho, h⟩ := bind_eq_ok_iff.1 h
    have hknown : ∀ entry ∈ outputs, entry.2.version.IsKnown := by
      split at ho
      · obtain rfl := Except.ok.inj ho
        nofun
      · exact isKnown_of_outputsOfJson ho
      · cases ho
    cases hc : Json.member? "changelog" members with
    | none =>
      rw [hc] at h
      obtain rfl := Except.ok.inj h
      exact hknown
    | some value =>
      rw [hc] at h
      obtain ⟨settings, -, rfl⟩ := map_eq_ok_iff.1 h
      exact hknown
  | _ => cases h

theorem isKnown_of_output? (h : ofJson value host = .ok configuration)
    (ho : configuration.output? name = some output) : output.version.IsKnown := by
  obtain ⟨entry, he, rfl⟩ := Option.map_eq_some_iff.1 ho
  exact isKnown_of_mem_outputs h entry (List.mem_of_find?_eq_some he)

theorem isKnown_outputOf (h : ofJson value host = .ok configuration) (variant : Text) :
    (configuration.outputOf variant).version.IsKnown := by
  rw [outputOf]
  cases ho : configuration.output? variant with
  | some output => exact isKnown_of_output? h ho
  | none =>
    cases hd : configuration.output? defaultName with
    | some output => exact isKnown_of_output? h hd
    | none => exact isKnown_default

/-- A configuration that could be read brings no failure of its own later. Either the variant and its
tokens make no pattern, which is told before the source is asked for anything; or there is a changelog,
and a version unless there is no tag or the source does not answer. -/
theorem loaded_safe (h : ofJson value host = .ok configuration) {source : Repository.Source}
    (hs : source.IsPlain)
    (hg : ∀ tags, source.allTags.outcome = .ok tags → ∀ tag ∈ tags, tag.name.HasShortGroups)
    (variant : Text) {output : Output} (ho : configuration.outputOf variant = output) :
    (∃ fault, Pattern.ofTokens output.tokens variant = .error fault ∧
      fault.TellsOf variant (output.tokens.getD Pattern.defaultTokens) ∧
      Version.ofSource source variant output.version output.tokens =
        Traced.fail (.pattern fault) ∧
      Changelog.ofSource source variant configuration.changelog output.tokens =
        Traced.fail (.pattern fault)) ∨
    (∃ pattern, Pattern.ofTokens output.tokens variant = .ok pattern ∧
      FailsOnly (fun failure ↦ failure = .noTag variant ∨ failure.IsRepository)
        (Version.ofSource source variant output.version output.tokens).outcome ∧
      ∃ text, (Changelog.ofSource source variant configuration.changelog output.tokens).outcome =
        .ok text) := by
  have hknown : output.version.IsKnown := ho ▸ isKnown_outputOf h variant
  cases hp : Pattern.ofTokens output.tokens variant with
  | error fault =>
    refine .inl ⟨fault, rfl, Pattern.tellsOf_of_ofTokens hp, ?_, ?_⟩
    · rw [Version.ofSource, Pattern.prepare_of_error hp]
      rfl
    · rw [Changelog.ofSource, Pattern.prepare_of_error hp]
      rfl
  | ok pattern =>
    refine .inr ⟨pattern, rfl, ?_, ?_⟩
    · refine (Version.failsOnly_ofSource hknown hg hp).mono fun failure hfailure ↦ ?_
      rcases hfailure with hfailure | hfailure
      · exact .inl hfailure
      · exact .inr (hs.allTags failure hfailure)
    · exact Changelog.exists_ofSource hs (hasFormat_of_ofJson h) hg hp

def flattenedDocument : Json.Value :=
  .object [("outputs", .object [("default",
    .object [("versionCodeStrategy", .text "semantic_flattened")])])]

def lostSource : Repository.Source :=
  .prepared (.ok [⟨"v1.0.3-debug", "c1", [], 0⟩]) (.error (.refused "lost"))

theorem flattened_loaded_safe :
    ∃ configuration, ofJson flattenedDocument = .ok configuration ∧
      FailsOnly (fun failure ↦ failure = .noTag "debug" ∨ failure.IsRepository)
        (Version.ofSource lostSource "debug" (configuration.outputOf "debug").version none).outcome ∧
      ∃ text, (Changelog.ofSource lostSource "debug" configuration.changelog none).outcome =
        .ok text := by
  obtain ⟨configuration, hc, ho⟩ : ∃ configuration, ofJson flattenedDocument = .ok configuration ∧
      (configuration.outputOf "debug").tokens = none := ⟨_, rfl, by decide⟩
  have hs : lostSource.IsPlain := by
    constructor
    · exact .ok _
    · intro after upTo
      exact .error ⟨_, rfl⟩
  have hg : ∀ tags, lostSource.allTags.outcome = .ok tags →
      ∀ tag ∈ tags, tag.name.HasShortGroups := by
    intro tags ht tag hm
    obtain rfl := Except.ok.inj ht
    obtain rfl := List.mem_singleton.1 hm
    exact Text.hasShortGroups_of_length_le (by decide)
  refine ⟨configuration, hc, ?_⟩
  rcases loaded_safe hc hs hg "debug" rfl with ⟨fault, hf, -⟩ | ⟨pattern, -, hversion, hchangelog⟩
  · rw [ho] at hf
    cases hf
  · rw [ho] at hversion hchangelog
    exact ⟨hversion, hchangelog⟩

end Configuration

end BuildTags
