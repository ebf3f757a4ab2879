import BuildTags.Proofs.Configuration.Member
import BuildTags.Proofs.Configuration.Reader

open BuildTags.Configuration

namespace BuildTags

structure Configuration.Output.IsGiven (members : Members) (output : Output) : Prop where
  fromTag : Gives members "useVersionsFromTag" IsFlag true output.version.fromTag
  stubFallback : Gives members "useStubsForTagAsFallback" IsFlag true output.version.stubFallback
  defaultsFallback :
    Gives members "useDefaultsForVersionsAsFallback" IsFlag true output.version.defaultsFallback
  defaultCode : Gives members "versionCode" (OrNull IsWhole) none output.version.defaultCode
  defaultName : Gives members "versionName" (OrNull IsText) none output.version.defaultName
  baseFileName : Gives members "baseFileName" (OrNull IsText) none output.baseFileName
  codeStrategy : Gives members "versionCodeStrategy"
    (IsNameOf (Version.CodeStrategy.named.map (·.1))) "build_number" output.version.codeStrategy
  nameStrategy : Gives members "versionNameStrategy"
    (IsNameOf (Version.NameStrategy.named.map (·.1))) "tag_name" output.version.nameStrategy
  tokens : Gives members "buildTagPatternBuilderFunctions" (OrNull IsTokens) none output.tokens

structure Changelog.Settings.IsGiven (host : Host) (members : Members) (settings : Settings) :
    Prop where
  issues : Gives members "issueNumberPattern" (IsIssues host) .keyAndNumber settings.issues
  linkFormat : Gives members "linkFormat" (IsNameOf (LinkFormat.named.map (·.1))) "markdown"
    settings.linkFormat
  urlStart : Gives members "issueUrlPrefix" IsText [] settings.urlStart
  key : Gives members "commitMessageKey" IsKey none settings.key

namespace Configuration

def IsOutput (name : Text) (value : Json.Value) (output : Output) : Prop :=
  ∃ members, value = .object members ∧ output.name = name ∧ output.IsGiven members

def AreOutputs (value : Json.Value) (outputs : List (Text × Output)) : Prop :=
  ∃ members, value = .object members ∧ List.Forall₂
    (fun member entry ↦ entry.1 = member.1 ∧ IsOutput member.1 member.2 entry.2) members outputs

def IsChangelog (host : Host) (value : Json.Value) (settings : Changelog.Settings) : Prop :=
  ∃ members, value = .object members ∧ settings.IsGiven host members

structure IsGiven (host : Host) (members : Members) (configuration : Configuration) : Prop where
  outputs : Gives members "outputs" AreOutputs [] configuration.outputs
  changelog : Gives members "changelog" (IsChangelog host) {} configuration.changelog

structure AdmitsOutput (members : Members) : Prop where
  fromTag : Fits members "useVersionsFromTag" fun value ↦ ∃ flag, IsFlag value flag
  stubFallback : Fits members "useStubsForTagAsFallback" fun value ↦ ∃ flag, IsFlag value flag
  defaultsFallback :
    Fits members "useDefaultsForVersionsAsFallback" fun value ↦ ∃ flag, IsFlag value flag
  defaultCode : Fits members "versionCode" fun value ↦ ∃ code, OrNull IsWhole value code
  defaultName : Fits members "versionName" fun value ↦ ∃ name, OrNull IsText value name
  baseFileName : Fits members "baseFileName" fun value ↦ ∃ name, OrNull IsText value name
  codeStrategy : Fits members "versionCodeStrategy" fun value ↦
    ∃ name, IsNameOf (Version.CodeStrategy.named.map (·.1)) value name
  nameStrategy : Fits members "versionNameStrategy" fun value ↦
    ∃ name, IsNameOf (Version.NameStrategy.named.map (·.1)) value name
  tokens : Fits members "buildTagPatternBuilderFunctions" fun value ↦
    ∃ tokens, OrNull IsTokens value tokens

structure AdmitsChangelog (host : Host) (members : Members) : Prop where
  issues : Fits members "issueNumberPattern" fun value ↦ ∃ issues, IsIssues host value issues
  linkFormat : Fits members "linkFormat" fun value ↦
    ∃ name, IsNameOf (Changelog.LinkFormat.named.map (·.1)) value name
  urlStart : Fits members "issueUrlPrefix" fun value ↦ ∃ text, IsText value text
  key : Fits members "commitMessageKey" fun value ↦ ∃ key, OrNull IsText value key

/-- Whether both sections of a document are missing or as a configuration asks for. -/
structure Admits (host : Host) (members : Members) : Prop where
  outputs : Fits members "outputs" fun value ↦ ∃ entries, value = .object entries ∧
    ∀ entry ∈ entries, ∃ members, entry.2 = .object members ∧ AdmitsOutput members
  changelog : Fits members "changelog" fun value ↦ ∃ members, value = .object members ∧
    AdmitsChangelog host members

variable {host : Host} {name : Text} {members entries : Members} {value : Json.Value}
  {output : Output} {outputs : List (Text × Output)} {settings : Changelog.Settings}
  {configuration : Configuration}

theorem outputOfJson_object_eq_ok_iff :
    Output.ofJson name (.object members) = .ok output ↔
      output.name = name ∧ output.IsGiven members := by
  have hcodes : ("build_number" : Text) ∈ Version.CodeStrategy.named.map (·.1) := by decide
  have hnames : ("tag_name" : Text) ∈ Version.NameStrategy.named.map (·.1) := by decide
  constructor
  · intro h
    obtain ⟨codeStrategy, hcode, h⟩ := bind_eq_ok_iff.1 h
    obtain ⟨nameStrategy, hname, h⟩ := bind_eq_ok_iff.1 h
    obtain ⟨tokens, htokens, h⟩ := bind_eq_ok_iff.1 h
    obtain ⟨fromTag, htag, h⟩ := bind_eq_ok_iff.1 h
    obtain ⟨stubFallback, hstub, h⟩ := bind_eq_ok_iff.1 h
    obtain ⟨defaultsFallback, hdefaults, h⟩ := bind_eq_ok_iff.1 h
    obtain ⟨defaultCode, hdefaultCode, h⟩ := bind_eq_ok_iff.1 h
    obtain ⟨defaultName, hdefaultName, h⟩ := bind_eq_ok_iff.1 h
    obtain ⟨baseFileName, hbase, h⟩ := bind_eq_ok_iff.1 h
    obtain rfl := Except.ok.inj h
    exact ⟨rfl, {
      fromTag := flagOrTrue_eq_ok_iff.1 (mapError_eq_ok_iff.1 htag)
      stubFallback := flagOrTrue_eq_ok_iff.1 (mapError_eq_ok_iff.1 hstub)
      defaultsFallback := flagOrTrue_eq_ok_iff.1 (mapError_eq_ok_iff.1 hdefaults)
      defaultCode := whole?_eq_ok_iff.1 (mapError_eq_ok_iff.1 hdefaultCode)
      defaultName := text?_eq_ok_iff.1 (mapError_eq_ok_iff.1 hdefaultName)
      baseFileName := text?_eq_ok_iff.1 (mapError_eq_ok_iff.1 hbase)
      codeStrategy := (nameOr_eq_ok_iff hcodes).1 (mapError_eq_ok_iff.1 hcode)
      nameStrategy := (nameOr_eq_ok_iff hnames).1 (mapError_eq_ok_iff.1 hname)
      tokens := tokens?_eq_ok_iff.1 htokens }⟩
  · rintro ⟨rfl, h⟩
    refine bind_eq_ok_iff.2 ⟨_, mapError_eq_ok_iff.2 ((nameOr_eq_ok_iff hcodes).2 h.codeStrategy), ?_⟩
    refine bind_eq_ok_iff.2 ⟨_, mapError_eq_ok_iff.2 ((nameOr_eq_ok_iff hnames).2 h.nameStrategy), ?_⟩
    refine bind_eq_ok_iff.2 ⟨_, tokens?_eq_ok_iff.2 h.tokens, ?_⟩
    refine bind_eq_ok_iff.2 ⟨_, mapError_eq_ok_iff.2 (flagOrTrue_eq_ok_iff.2 h.fromTag), ?_⟩
    refine bind_eq_ok_iff.2 ⟨_, mapError_eq_ok_iff.2 (flagOrTrue_eq_ok_iff.2 h.stubFallback), ?_⟩
    refine bind_eq_ok_iff.2 ⟨_, mapError_eq_ok_iff.2 (flagOrTrue_eq_ok_iff.2 h.defaultsFallback), ?_⟩
    refine bind_eq_ok_iff.2 ⟨_, mapError_eq_ok_iff.2 (whole?_eq_ok_iff.2 h.defaultCode), ?_⟩
    refine bind_eq_ok_iff.2 ⟨_, mapError_eq_ok_iff.2 (text?_eq_ok_iff.2 h.defaultName), ?_⟩
    exact bind_eq_ok_iff.2 ⟨_, mapError_eq_ok_iff.2 (text?_eq_ok_iff.2 h.baseFileName), rfl⟩

theorem outputOfJson_eq_ok_iff :
    Output.ofJson name value = .ok output ↔ IsOutput name value output := by
  cases value with
  | object members => simp [IsOutput, outputOfJson_object_eq_ok_iff]
  | _ => simp [IsOutput, Output.ofJson]

theorem exists_outputOfJson_iff : (∃ output, Output.ofJson name value = .ok output) ↔
    ∃ members, value = .object members ∧ AdmitsOutput members := by
  simp only [outputOfJson_eq_ok_iff]
  constructor
  · rintro ⟨output, members, rfl, -, h⟩
    exact ⟨members, rfl, {
      fromTag := exists_gives_iff.1 ⟨_, h.fromTag⟩
      stubFallback := exists_gives_iff.1 ⟨_, h.stubFallback⟩
      defaultsFallback := exists_gives_iff.1 ⟨_, h.defaultsFallback⟩
      defaultCode := exists_gives_iff.1 ⟨_, h.defaultCode⟩
      defaultName := exists_gives_iff.1 ⟨_, h.defaultName⟩
      baseFileName := exists_gives_iff.1 ⟨_, h.baseFileName⟩
      codeStrategy := exists_gives_iff.1 ⟨_, h.codeStrategy⟩
      nameStrategy := exists_gives_iff.1 ⟨_, h.nameStrategy⟩
      tokens := exists_gives_iff.1 ⟨_, h.tokens⟩ }⟩
  · rintro ⟨members, rfl, h⟩
    obtain ⟨fromTag, htag⟩ := exists_gives_iff.2 h.fromTag
    obtain ⟨stubFallback, hstub⟩ := exists_gives_iff.2 h.stubFallback
    obtain ⟨defaultsFallback, hdefaults⟩ := exists_gives_iff.2 h.defaultsFallback
    obtain ⟨defaultCode, hdefaultCode⟩ := exists_gives_iff.2 h.defaultCode
    obtain ⟨defaultName, hdefaultName⟩ := exists_gives_iff.2 h.defaultName
    obtain ⟨baseFileName, hbase⟩ := exists_gives_iff.2 h.baseFileName
    obtain ⟨codeStrategy, hcode⟩ := exists_gives_iff.2 h.codeStrategy
    obtain ⟨nameStrategy, hname⟩ := exists_gives_iff.2 h.nameStrategy
    obtain ⟨tokens, htokens⟩ := exists_gives_iff.2 h.tokens
    let version : Version.Settings :=
      ⟨fromTag, stubFallback, defaultsFallback, defaultCode, defaultName, codeStrategy, nameStrategy⟩
    exact ⟨⟨name, baseFileName, version, tokens⟩, members, rfl, rfl, htag, hstub, hdefaults,
      hdefaultCode, hdefaultName, hbase, hcode, hname, htokens⟩

theorem outputsOfJson_eq_ok_iff : outputsOfJson entries = .ok outputs ↔ List.Forall₂
    (fun member entry ↦ entry.1 = member.1 ∧ IsOutput member.1 member.2 entry.2) entries outputs := by
  induction entries generalizing outputs with
  | nil => cases outputs <;> simp [outputsOfJson]
  | cons member entries ih =>
    rw [outputsOfJson, bind_eq_ok_iff]
    constructor
    · rintro ⟨output, ho, h⟩
      obtain ⟨rest, hr, h⟩ := bind_eq_ok_iff.1 h
      cases h
      exact .cons ⟨rfl, outputOfJson_eq_ok_iff.1 ho⟩ (ih.1 hr)
    · intro h
      cases h with
      | @cons _ entry _ rest ho hr =>
        obtain ⟨name, output⟩ := entry
        obtain ⟨rfl, ho⟩ := ho
        exact ⟨output, outputOfJson_eq_ok_iff.2 ho, bind_eq_ok_iff.2 ⟨rest, ih.2 hr, rfl⟩⟩

theorem exists_outputsOfJson_iff : (∃ outputs, outputsOfJson entries = .ok outputs) ↔
    ∀ entry ∈ entries, ∃ output, Output.ofJson entry.1 entry.2 = .ok output := by
  induction entries with
  | nil => simp [outputsOfJson]
  | cons member entries ih =>
    rw [List.forall_mem_cons, ← ih]
    constructor
    · rintro ⟨outputs, h⟩
      obtain ⟨output, ho, h⟩ := bind_eq_ok_iff.1 h
      obtain ⟨rest, hr, -⟩ := bind_eq_ok_iff.1 h
      exact ⟨⟨output, ho⟩, rest, hr⟩
    · rintro ⟨⟨output, ho⟩, rest, hr⟩
      exact ⟨_, bind_eq_ok_iff.2 ⟨output, ho, bind_eq_ok_iff.2 ⟨rest, hr, rfl⟩⟩⟩

theorem changelogOfJson_eq_ok_iff :
    changelogOfJson value host = .ok settings ↔ IsChangelog host value settings := by
  have hissues : ∀ {members issues},
      (∃ source, textOr "changelog" members "issueNumberPattern"
          Changelog.IssuePattern.keyAndNumber.source = .ok source ∧
          Changelog.IssuePattern.read source host = .ok issues) ↔
        Gives members "issueNumberPattern" (IsIssues host) .keyAndNumber issues :=
    exists_read_eq_ok_iff (Changelog.IssuePattern.read_keyAndNumber host)
  have hformats : ("markdown" : Text) ∈ Changelog.LinkFormat.named.map (·.1) := by decide
  constructor
  · intro h
    cases value with
    | object members =>
      obtain ⟨source, hsource, h⟩ := bind_eq_ok_iff.1 h
      obtain ⟨issues, hread, h⟩ := bind_eq_ok_iff.1 h
      obtain ⟨linkFormat, hformat, h⟩ := bind_eq_ok_iff.1 h
      obtain ⟨urlStart, hstart, h⟩ := bind_eq_ok_iff.1 h
      obtain ⟨key, hkey, h⟩ := bind_eq_ok_iff.1 h
      obtain rfl := Except.ok.inj h
      exact ⟨members, rfl, {
        issues := hissues.1 ⟨source, mapError_eq_ok_iff.1 hsource, mapError_eq_ok_iff.1 hread⟩
        linkFormat := (nameOr_eq_ok_iff hformats).1 (mapError_eq_ok_iff.1 hformat)
        urlStart := textOr_eq_ok_iff.1 (mapError_eq_ok_iff.1 hstart)
        key := exists_text?_eq_ok_iff.1 ⟨key, mapError_eq_ok_iff.1 hkey, rfl⟩ }⟩
    | _ => cases h
  · rintro ⟨members, rfl, h⟩
    obtain ⟨issues, urlStart, key, linkFormat⟩ := settings
    obtain ⟨source, hsource, hread⟩ := hissues.2 h.issues
    obtain ⟨text, hkey, rfl⟩ := exists_text?_eq_ok_iff.2 h.key
    refine bind_eq_ok_iff.2 ⟨source, mapError_eq_ok_iff.2 hsource, ?_⟩
    refine bind_eq_ok_iff.2 ⟨issues, mapError_eq_ok_iff.2 hread, ?_⟩
    refine bind_eq_ok_iff.2 ⟨_, mapError_eq_ok_iff.2 ((nameOr_eq_ok_iff hformats).2 h.linkFormat), ?_⟩
    refine bind_eq_ok_iff.2 ⟨_, mapError_eq_ok_iff.2 (textOr_eq_ok_iff.2 h.urlStart), ?_⟩
    exact bind_eq_ok_iff.2 ⟨_, mapError_eq_ok_iff.2 hkey, rfl⟩

theorem exists_changelogOfJson_iff : (∃ settings, changelogOfJson value host = .ok settings) ↔
    ∃ members, value = .object members ∧ AdmitsChangelog host members := by
  have hkey : ∀ members, (∃ key, Gives members "commitMessageKey" IsKey none key) ↔
      Fits members "commitMessageKey" fun value ↦ ∃ key, OrNull IsText value key := by
    intro members
    refine exists_gives_iff.trans (fits_congr fun value ↦ ?_)
    constructor
    · rintro ⟨key, text, h, -⟩
      exact ⟨text, h⟩
    · rintro ⟨text, h⟩
      exact ⟨_, text, h, rfl⟩
  simp only [changelogOfJson_eq_ok_iff]
  constructor
  · rintro ⟨settings, members, rfl, h⟩
    exact ⟨members, rfl, {
      issues := exists_gives_iff.1 ⟨_, h.issues⟩
      linkFormat := exists_gives_iff.1 ⟨_, h.linkFormat⟩
      urlStart := exists_gives_iff.1 ⟨_, h.urlStart⟩
      key := (hkey members).1 ⟨_, h.key⟩ }⟩
  · rintro ⟨members, rfl, h⟩
    obtain ⟨issues, hissues⟩ := exists_gives_iff.2 h.issues
    obtain ⟨linkFormat, hformat⟩ := exists_gives_iff.2 h.linkFormat
    obtain ⟨urlStart, hstart⟩ := exists_gives_iff.2 h.urlStart
    obtain ⟨key, hkey⟩ := (hkey members).2 h.key
    exact ⟨⟨issues, urlStart, key, linkFormat⟩, members, rfl, hissues, hformat, hstart, hkey⟩

theorem ofJson_object_eq_ok_iff :
    ofJson (.object members) host = .ok configuration ↔ configuration.IsGiven host members := by
  obtain ⟨outputs, settings⟩ := configuration
  rw [ofJson_object, bind_eq_ok_iff]
  constructor
  · rintro ⟨outputs, ho, hc⟩
    have houtputs : Gives members "outputs" AreOutputs [] outputs := by
      split at ho
      · rename_i hm
        cases ho
        exact .missing hm
      · rename_i entries hm
        exact .given hm ⟨entries, rfl, outputsOfJson_eq_ok_iff.1 ho⟩
      · cases ho
    split at hc
    · rename_i hm
      cases hc
      exact ⟨houtputs, .missing hm⟩
    · rename_i value hm
      obtain ⟨settings, hs, hc⟩ := bind_eq_ok_iff.1 hc
      cases hc
      exact ⟨houtputs, .given hm (changelogOfJson_eq_ok_iff.1 hs)⟩
  · rintro ⟨ho, hc⟩
    refine ⟨outputs, ?_, ?_⟩
    · obtain hm | ⟨hm, entries, rfl, ho⟩ := ho
      · simp only [hm]
      · simpa only [hm] using outputsOfJson_eq_ok_iff.2 ho
    · obtain hm | ⟨hm, hs⟩ := hc
      · simp only [hm]
      · simp only [hm, changelogOfJson_eq_ok_iff.2 hs]
        rfl

theorem ofJson_eq_ok_iff : ofJson value host = .ok configuration ↔
    ∃ members, value = .object members ∧ configuration.IsGiven host members := by
  cases value with
  | object members => simp [ofJson_object_eq_ok_iff]
  | _ => simp [ofJson]

theorem exists_ofJson_iff : (∃ configuration, ofJson value host = .ok configuration) ↔
    ∃ members, value = .object members ∧ Admits host members := by
  have houtputs : ∀ members, (∃ outputs, Gives members "outputs" AreOutputs [] outputs) ↔
      Fits members "outputs" fun value ↦ ∃ entries, value = .object entries ∧
        ∀ entry ∈ entries, ∃ members, entry.2 = .object members ∧ AdmitsOutput members := by
    intro members
    refine exists_gives_iff.trans (fits_congr fun value ↦ ?_)
    simp only [AreOutputs, @exists_comm (List (Text × Output)), ← outputsOfJson_eq_ok_iff,
      exists_and_left, exists_outputsOfJson_iff, exists_outputOfJson_iff]
  have hchangelog : ∀ members, (∃ settings, Gives members "changelog" (IsChangelog host) {} settings) ↔
      Fits members "changelog" fun value ↦ ∃ members, value = .object members ∧
        AdmitsChangelog host members := by
    intro members
    refine exists_gives_iff.trans (fits_congr fun value ↦ ?_)
    simp only [← changelogOfJson_eq_ok_iff, exists_changelogOfJson_iff]
  simp only [ofJson_eq_ok_iff]
  constructor
  · rintro ⟨configuration, members, rfl, h⟩
    exact ⟨members, rfl, (houtputs members).1 ⟨_, h.outputs⟩, (hchangelog members).1 ⟨_, h.changelog⟩⟩
  · rintro ⟨members, rfl, h⟩
    obtain ⟨outputs, ho⟩ := (houtputs members).2 h.outputs
    obtain ⟨settings, hs⟩ := (hchangelog members).2 h.changelog
    exact ⟨⟨outputs, settings⟩, members, rfl, ho, hs⟩

end Configuration

end BuildTags
