import BuildTags.CommandLine.Execute
import BuildTags.Proofs.CommandLine.Reading

namespace BuildTags.CommandLine

/-- Whether inputs are what a command line says, and where it says nothing, what the environment has
or what is taken without it. -/
structure Inputs.IsRead (environment : Environment) (items : List Item) (inputs : Inputs) : Prop where
  command : (firstCommand? items).or
    (Command.ofName? (environment.getOr "INPUT_COMMAND" "last-tag")) = some inputs.command
  variant : inputs.variant =
    (lastValue? .variant items).getD (environment.getOr "INPUT_VARIANT" [])
  variant_ne_nil : inputs.variant ≠ []
  config : inputs.config =
    path? ((lastValue? .config items).getD (environment.getOr "INPUT_CONFIG" []))
  source : inputs.source = (lastValue? .source items).getD (environment.getOr "INPUT_SOURCE" "git")
  source_mem : ∀ text, .value .source text ∈ items → text ∈ sourceNames
  repoPath : inputs.repoPath =
    .ofText ((lastValue? .repoPath items).getD (environment.getOr "INPUT_REPO_PATH" "."))
  token : inputs.token = (lastValue? .token items).getD (tokenVariable environment)
  repository : inputs.repository =
    (lastValue? .repository items).getD (environment.getOr "GITHUB_REPOSITORY" [])
  outputDir : inputs.outputDir = .ofText
    ((lastValue? .outputDir items).getD (environment.getOr "INPUT_OUTPUT_DIR" "build/tag-versioning"))
  buildFile : inputs.buildFile = path? ((lastValue? .buildFile items).getD [])
  changelogFile : inputs.changelogFile = path? ((lastValue? .changelogFile items).getD [])
  outputName : inputs.outputName = (lastValue? .outputName items).getD "app.apk"
  debug : inputs.debug = (decide (.debug ∈ items) ||
    Text.lowerAscii (environment.getOr "INPUT_DEBUG" "false") = ("true" : Text))

variable {environment environment' : Environment} {words : List Text} {items : List Item}
  {inputs inputs' : Inputs}

theorem Inputs.exists_isRead (h : Inputs.read environment words = .ok inputs) :
    ∃ items, Says words items ∧ inputs.IsRead environment items := by
  rw [Inputs.read] at h
  obtain ⟨roled, hroles, h⟩ := bind_eq_ok_iff.1 h
  obtain ⟨⟨said, strays⟩, hread, h⟩ := bind_eq_ok_iff.1 h
  dsimp only at h
  split at h
  · cases h
  · rename_i hstrays
    obtain rfl := not_not.1 hstrays
    split at h
    · cases h
    · rename_i hvariant
      obtain rfl := Except.ok.inj h
      obtain ⟨items, hitems, hfollows⟩ := exists_items (mapError_eq_ok_iff.1 hroles) hread
      have hvalue : ∀ setting, lastValue? setting items = said.value? setting := by
        intro setting
        rw [hfollows.value?]
        exact Option.or_none.symm
      refine ⟨items, hitems, ?_⟩
      constructor
      case command =>
        obtain ⟨command, hc⟩ := Option.isSome_iff_exists.1 hfollows.isSome
        have hcommand := hfollows.command
        rw [hc] at hcommand ⊢
        exact hcommand.symm
      case variant_ne_nil => exact hvariant
      case source_mem => exact hfollows.sources
      case debug => rw [hfollows.debug, Bool.false_or]
      all_goals rw [hvalue]

namespace Inputs.IsRead

theorem firstCommand?_eq (h : inputs.IsRead environment items) (hitems : Says words items)
    (hg : GivesCommand words) : firstCommand? items = some inputs.command := by
  obtain ⟨command, hfirst⟩ := Option.isSome_iff_exists.1 (hitems.givesCommand_iff.1 hg)
  have hcommand := h.command
  rw [hfirst] at hcommand ⊢
  exact hcommand

theorem command_named (h : inputs.IsRead environment items) (hitems : Says words items) :
    (∃ word ∈ words, Command.ofName? word = some inputs.command) ∨ ¬GivesCommand words ∧
      Command.ofName? (environment.getOr "INPUT_COMMAND" "last-tag") = some inputs.command := by
  by_cases hg : GivesCommand words
  · exact .inl (hitems.exists_name (mem_of_firstCommand? (h.firstCommand?_eq hitems hg)))
  · have hnone := Option.not_isSome_iff_eq_none.1 (mt hitems.givesCommand_iff.2 hg)
    have hcommand := h.command
    rw [hnone] at hcommand
    exact .inr ⟨hg, hcommand⟩

theorem source_eq (h : inputs.IsRead environment items) (hitems : Says words items)
    (hg : ¬Setting.source.IsGiven words) :
    inputs.source = environment.getOr "INPUT_SOURCE" "git" := by
  have hnone := Option.not_isSome_iff_eq_none.1 (mt (hitems.isGiven_iff rfl).2 hg)
  rw [h.source, hnone]
  rfl

theorem source_of_notMem (h : inputs.IsRead environment items) (hitems : Says words items)
    (hs : inputs.source ∉ sourceNames) :
    ¬Setting.source.IsGiven words ∧ environment.get? "INPUT_SOURCE" = some inputs.source := by
  have hg : ¬Setting.source.IsGiven words := by
    intro hg
    obtain ⟨value, hv⟩ := Option.isSome_iff_exists.1 ((hitems.isGiven_iff rfl).1 hg)
    rw [h.source, hv] at hs
    exact hs (h.source_mem value (mem_of_lastValue? hv))
  refine ⟨hg, ?_⟩
  have hsource := h.source_eq hitems hg
  cases he : environment.get? "INPUT_SOURCE" with
  | some text =>
    rw [hsource, Environment.getOr, he]
    rfl
  | none =>
    rw [hsource, Environment.getOr, he] at hs
    exact absurd (by decide) hs

end Inputs.IsRead

theorem openSource_of_notMem (hs : inputs.source ∉ sourceNames) (world : World) :
    openSource world inputs = pure (Repository.gitSource inputs.repoPath.toText world.git) := by
  have hne : inputs.source ≠ "github" := by
    intro he
    rw [he] at hs
    exact hs (by decide)
  rw [openSource, if_neg hne]

/-- Of what is read, only a source may be none of the known ones, and only if a variable has it and no
word gives one. Tags are read from a working tree then. -/
theorem unknown_source_iff (h : Inputs.read environment words = .ok inputs) :
    ((∃ word ∈ words, Command.ofName? word = some inputs.command) ∨ ¬GivesCommand words ∧
      Command.ofName? (environment.getOr "INPUT_COMMAND" "last-tag") = some inputs.command) ∧
    inputs.variant ≠ [] ∧
    (inputs.source ∉ sourceNames ↔ ¬Setting.source.IsGiven words ∧
      ∃ text, environment.get? "INPUT_SOURCE" = some text ∧ text ∉ sourceNames) ∧
    (inputs.source ∉ sourceNames → environment.get? "INPUT_SOURCE" = some inputs.source ∧
      ∀ world, openSource world inputs =
        pure (Repository.gitSource inputs.repoPath.toText world.git)) := by
  obtain ⟨items, hitems, hread⟩ := Inputs.exists_isRead h
  refine ⟨hread.command_named hitems, hread.variant_ne_nil, ⟨fun hs ↦ ?_, ?_⟩, fun hs ↦ ⟨?_, ?_⟩⟩
  · obtain ⟨hg, he⟩ := hread.source_of_notMem hitems hs
    exact ⟨hg, _, he, hs⟩
  · rintro ⟨hg, text, he, ht⟩
    rw [hread.source_eq hitems hg, Environment.getOr, he]
    exact ht
  · exact (hread.source_of_notMem hitems hs).2
  · exact openSource_of_notMem hs

/-- A name of a source in other letters than the known one. -/
theorem capitals_read_git : ∃ inputs,
    Inputs.read ⟨[("INPUT_SOURCE", "GitHub")]⟩ ["--variant", "debug"] = .ok inputs ∧
      inputs.source = "GitHub" ∧ inputs.source ∉ sourceNames ∧
      ∀ world, openSource world inputs =
        pure (Repository.gitSource inputs.repoPath.toText world.git) := by
  obtain ⟨inputs, hread, hsource⟩ : ∃ inputs,
      Inputs.read ⟨[("INPUT_SOURCE", "GitHub")]⟩ ["--variant", "debug"] = .ok inputs ∧
        inputs.source = "GitHub" := ⟨_, rfl, rfl⟩
  have hs : inputs.source ∉ sourceNames := by
    rw [hsource]
    decide
  obtain ⟨-, -, -, hgit⟩ := unknown_source_iff hread
  exact ⟨inputs, hread, hsource, hs, (hgit hs).2⟩

/-- Whether inputs have in common what a command line gives, and what no variable stands in for. -/
structure Inputs.AgreeOn (words : List Text) (inputs inputs' : Inputs) : Prop where
  command : GivesCommand words → inputs.command = inputs'.command
  variant : Setting.variant.IsGiven words → inputs.variant = inputs'.variant
  config : Setting.config.IsGiven words → inputs.config = inputs'.config
  source : Setting.source.IsGiven words → inputs.source = inputs'.source
  repoPath : Setting.repoPath.IsGiven words → inputs.repoPath = inputs'.repoPath
  token : Setting.token.IsGiven words → inputs.token = inputs'.token
  repository : Setting.repository.IsGiven words → inputs.repository = inputs'.repository
  outputDir : Setting.outputDir.IsGiven words → inputs.outputDir = inputs'.outputDir
  buildFile : inputs.buildFile = inputs'.buildFile
  changelogFile : inputs.changelogFile = inputs'.changelogFile
  outputName : inputs.outputName = inputs'.outputName
  debug : Setting.debug.IsGiven words → inputs.debug = true ∧ inputs'.debug = true

/-- What a command line gives wins over every environment. -/
theorem given_wins (h : Inputs.read environment words = .ok inputs)
    (h' : Inputs.read environment' words = .ok inputs') :
    (∃! items, Says words items) ∧ inputs.AgreeOn words inputs' := by
  obtain ⟨items, hitems, hread⟩ := Inputs.exists_isRead h
  obtain ⟨items', hitems', hread'⟩ := Inputs.exists_isRead h'
  obtain rfl := hitems.unique hitems'
  refine ⟨⟨items, hitems, fun other hother ↦ hother.unique hitems⟩, ?_⟩
  constructor
  case command =>
    intro hg
    exact Option.some.inj
      ((hread.firstCommand?_eq hitems hg).symm.trans (hread'.firstCommand?_eq hitems hg))
  case variant =>
    intro hg
    rw [hread.variant, hread'.variant]
    exact hitems.getD_eq hg rfl _ _
  case config =>
    intro hg
    rw [hread.config, hread'.config]
    exact congrArg path? (hitems.getD_eq hg rfl _ _)
  case source =>
    intro hg
    rw [hread.source, hread'.source]
    exact hitems.getD_eq hg rfl _ _
  case repoPath =>
    intro hg
    rw [hread.repoPath, hread'.repoPath]
    exact congrArg Disk.Path.ofText (hitems.getD_eq hg rfl _ _)
  case token =>
    intro hg
    rw [hread.token, hread'.token]
    exact hitems.getD_eq hg rfl _ _
  case repository =>
    intro hg
    rw [hread.repository, hread'.repository]
    exact hitems.getD_eq hg rfl _ _
  case outputDir =>
    intro hg
    rw [hread.outputDir, hread'.outputDir]
    exact congrArg Disk.Path.ofText (hitems.getD_eq hg rfl _ _)
  case buildFile => rw [hread.buildFile, hread'.buildFile]
  case changelogFile => rw [hread.changelogFile, hread'.changelogFile]
  case outputName => rw [hread.outputName, hread'.outputName]
  case debug =>
    intro hg
    obtain ⟨ht, -⟩ | ⟨-, hm⟩ := hitems.of_isGiven hg
    · cases ht
    · rw [hread.debug, hread'.debug, decide_eq_true hm]
      exact ⟨rfl, rfl⟩

def mixedWords : List Text :=
  ["--variant", "debug", "--sou=git", "version-code", "--token=", "--var=release", "--debug"]

def otherVariables : Environment :=
  ⟨[("INPUT_COMMAND", "changelog"), ("INPUT_VARIANT", "other"), ("INPUT_SOURCE", "github"),
    ("INPUT_TOKEN", "t"), ("INPUT_CONFIG", "c.json")]⟩

theorem mixedWords_win : ∃ inputs inputs', Inputs.read {} mixedWords = .ok inputs ∧
    Inputs.read otherVariables mixedWords = .ok inputs' ∧ (∃! items, Says mixedWords items) ∧
      inputs.AgreeOn mixedWords inputs' ∧ inputs.token = [] ∧ inputs'.token = [] ∧
        inputs.config ≠ inputs'.config := by
  obtain ⟨inputs, hread, htoken, hconfig⟩ : ∃ inputs, Inputs.read {} mixedWords = .ok inputs ∧
      inputs.token = [] ∧ inputs.config = none := ⟨_, rfl, rfl, rfl⟩
  obtain ⟨inputs', hread', htoken', hconfig'⟩ : ∃ inputs',
      Inputs.read otherVariables mixedWords = .ok inputs' ∧ inputs'.token = [] ∧
        inputs'.config = some (.ofText "c.json") := ⟨_, rfl, rfl, rfl⟩
  obtain ⟨hitems, hagree⟩ := given_wins hread hread'
  refine ⟨inputs, inputs', hread, hread', hitems, hagree, htoken, htoken', ?_⟩
  rw [hconfig, hconfig']
  exact nofun

end BuildTags.CommandLine
