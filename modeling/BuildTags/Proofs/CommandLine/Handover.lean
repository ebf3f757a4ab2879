import BuildTags.Proofs.Build.File
import BuildTags.Proofs.CommandLine.Session

namespace BuildTags.CommandLine

open Run

/-- The build that the tags of the source lead to: the latest match, or the stub where no tag
matches. -/
def Resolves (world : World) (inputs : Inputs) (configuration : Configuration) (build : Build) :
    Prop :=
  ∃ source pattern tags found, (openSource world inputs).outcome = .ok source ∧
    Pattern.ofTokens (configuration.outputOf inputs.variant).tokens inputs.variant = .ok pattern ∧
    source.allTags.outcome = .ok tags ∧ Match.ofTags pattern tags = .ok found ∧
    build = ((Match.latest found).map (Build.ofMatch · inputs.variant)).getD (.stub inputs.variant)

variable {world : World} {inputs : Inputs} {disk disk' : Disk} {configuration : Configuration}
  {build : Build}

theorem exists_resolves_of_stampAt {stamp : Version.Stamp}
    (hc : configurationAt world.host disk inputs.config = .ok configuration)
    (hf : (configuration.outputOf inputs.variant).version.fromTag = true)
    (hs : stampAt world inputs disk = .ok stamp) :
    ∃ build, stamp.build = some build ∧ Resolves world inputs configuration build := by
  rw [stampAt, hc, ok_bind] at hs
  obtain ⟨source, ho, hs⟩ := bind_eq_ok_iff.1 hs
  cases hp : Pattern.ofTokens (configuration.outputOf inputs.variant).tokens inputs.variant with
  | error fault =>
    simp only [Version.outcome_ofSource_of_error hp] at hs
    cases hs
  | ok pattern =>
    simp only [Version.outcome_ofSource_of_fromTag hp hf] at hs
    obtain ⟨tags, ht, hs⟩ := bind_eq_ok_iff.1 hs
    obtain ⟨found, hm, hs⟩ := bind_eq_ok_iff.1 hs
    rw [Match.outcome_searchLatest] at hm
    obtain ⟨matched, hmatched, rfl⟩ := map_eq_ok_iff.1 (mapError_eq_ok_iff.1 hm)
    exact ⟨_, Version.Stamp.build_of_compute hf hs, source, pattern, tags, matched, ho, hp, ht,
      hmatched, rfl⟩

theorem variant_of_resolves (h : Resolves world inputs configuration build) :
    build.variant = inputs.variant := by
  obtain ⟨-, -, -, found, -, -, -, -, rfl⟩ := h
  cases Match.latest found <;> rfl

theorem exists_successorName {tokens : Option (List Pattern.Token)} {pattern : Pattern}
    {number next : Text} (hp : Pattern.ofTokens tokens build.variant = .ok pattern)
    (hn : Numeral.write build.number = .ok number)
    (hn' : Numeral.write (build.number + 1) = .ok next) :
    ∃ name, build.successorName tokens = .ok name := by
  rw [Build.successorName, hn', hp, hn]
  simp only [liftM, monadLift, MonadLift.monadLift, mapError_ok, ok_bind]
  cases pattern.numberSpan? build.name with
  | some span => exact ⟨_, rfl⟩
  | none => cases Text.cutLast? number build.name <;> exact ⟨_, rfl⟩

theorem result_nextTag {now : Progress} {tag number : Text}
    (hb : buildAt world.host now.disk inputs.buildPath = .ok build)
    (hs : build.successorName (configuration.outputOf inputs.variant).tokens = .ok tag)
    (hn : Numeral.write (build.number + 1) = .ok number) :
    ∃ events, (nextTag world configuration inputs).result now =
      (.ok { tag, buildNumber := number },
        { now with printed := now.printed ++ tag ++ ['\n'], events }) := by
  have hs : (build.successor (configuration.outputOf inputs.variant).tokens).outcome = .ok tag := hs
  obtain ⟨events, he⟩ := (Quiet.look (buildAt world.host · inputs.buildPath)).result_bind_of_ok hb
  rw [nextTag, he]
  obtain ⟨events, he⟩ := (Quiet.traced (build.successor _)).result_bind_of_ok hs
  rw [he, Run.result_bind_of_ok (result_print _ _), hn]
  exact ⟨_, rfl⟩

theorem commandResult_nextTag (world : World) {tag number : Text} (hc : inputs.command = .nextTag)
    (ht : successorAt world inputs disk = .ok (build, tag))
    (hn : Numeral.write (build.number + 1) = .ok number) :
    ∃ events, commandResult world inputs disk =
      (.ok { tag, buildNumber := number }, { disk, printed := tag ++ ['\n'], events }) := by
  obtain ⟨configuration, hf, ht⟩ := bind_eq_ok_iff.1 ht
  obtain ⟨found, hb, ht⟩ := bind_eq_ok_iff.1 ht
  obtain ⟨name, hs, ht⟩ := bind_eq_ok_iff.1 ht
  cases ht
  have hf : configurationAt world.host (start inputs disk).disk inputs.config = .ok configuration := hf
  obtain ⟨events, he⟩ := (quiet_loadConfiguration _ inputs.config).result_bind_of_ok hf
  rw [commandResult, perform, he]
  simp only [hc]
  exact result_nextTag hb hs hn

/-- A configuration that has been read is read again as long as its file keeps its bytes. -/
theorem configurationAt_of_extends {host : Host} {path : Option Disk.Path}
    (hc : configurationAt host disk path = .ok configuration) (h : Disk.Extends disk disk')
    (hb : ∀ file, path = some file → ∀ place, disk.target? file.toText = some place →
      disk'.bytes? place = disk.bytes? place) :
    configurationAt host disk' path = .ok configuration := by
  cases path with
  | none => exact hc
  | some path =>
    obtain ⟨text, ht, hc⟩ := bind_eq_ok_iff.1 hc
    have hread := Disk.readText_of_extends (textAt_eq_ok_iff.1 ht) h (hb path rfl)
    rw [configurationAt, textAt_eq_ok_iff.2 hread]
    exact hc

/-- The file for the outputs takes the outputs of the next run if it took those of the last one. -/
theorem Concludes.exists_appendText {outputs : Outputs}
    (h : Concludes world disk (.ok outputs) .normal disk') (hp : world.outputPath ≠ [])
    (text : Text) : ∃ disk'', disk'.appendText world.outputPath text = .ok disk'' := by
  cases h with
  | unset hp' => exact absurd hp' hp
  | handedOn hp' ha => exact Disk.exists_appendText_of_appendText ha text

/-- Whether two command lines are about the same variant, configuration and build file. -/
structure Inputs.Agree (inputs inputs' : Inputs) : Prop where
  variant : inputs'.variant = inputs.variant
  config : inputs'.config = inputs.config
  outputDir : inputs'.outputDir = inputs.outputDir
  buildFile : inputs'.buildFile = inputs.buildFile

theorem Inputs.Agree.buildPath {inputs' : Inputs} (h : inputs.Agree inputs') :
    inputs'.buildPath = inputs.buildPath := by
  rw [Inputs.buildPath, Inputs.buildPath, h.buildFile, h.outputDir, h.variant]

/-- Whether the build file, the configuration and the file for the outputs are three files. -/
structure Apart (world : World) (inputs : Inputs) (disk : Disk) : Prop where
  build : ∀ path, inputs.config = some path →
    disk.target? path.toText ≠ disk.target? inputs.buildPath.toText
  outputs : world.outputPath ≠ [] →
    disk.target? world.outputPath ≠ disk.target? inputs.buildPath.toText
  config : world.outputPath ≠ [] → ∀ path, inputs.config = some path →
    disk.target? world.outputPath ≠ disk.target? path.toText

structure Leaves (world : World) (inputs : Inputs) (configuration : Configuration) (build : Build)
    (disk : Disk) : Prop where
  resolves : Resolves world inputs configuration build
  number : ∃ digits, Numeral.write build.number = .ok digits
  config : configurationAt world.host disk inputs.config = .ok configuration
  build : buildAt world.host disk inputs.buildPath = .ok build
  outputs : world.outputPath ≠ [] → ∀ text, ∃ disk', disk.appendText world.outputPath text = .ok disk'

theorem Ends.exists_saved {outputs : Outputs} {effect : Effect}
    (h : Ends world inputs disk (.ok outputs) effect) (hl : inputs.command = .lastTag)
    (hc : configurationAt world.host disk inputs.config = .ok configuration)
    (hf : (configuration.outputOf inputs.variant).version.fromTag = true) :
    ∃ build text, Resolves world inputs configuration build ∧ build.write = .ok text ∧
      effect = { written := some (inputs.buildPath, text) } := by
  cases h with
  | done h =>
    cases h with
    | @saved stamp build text _ hc' hs hb hw ho =>
      obtain ⟨found, hfound, hresolves⟩ := exists_resolves_of_stampAt hc hf hs
      obtain rfl := Option.some.inj (hfound.symm.trans hb)
      exact ⟨found, text, hresolves, hw, rfl⟩
    | unsaved hc' hs hb ho =>
      obtain ⟨found, hfound, -⟩ := exists_resolves_of_stampAt hc hf hs
      cases hb.symm.trans hfound
    | version hc' => rcases hc' with hc' | hc' <;> cases hl.symm.trans hc'
    | changelogSaved hc' => cases hl.symm.trans hc'
    | changelogShown hc' => cases hl.symm.trans hc'
    | successor hc' => cases hl.symm.trans hc'
    | fileName hc' => cases hl.symm.trans hc'

theorem leaves_of_lastTag {call : Call}
    (hr : Inputs.read call.world.environment call.words = .ok inputs)
    (hl : inputs.command = .lastTag) (ha : Apart call.world inputs disk)
    (hn : (call.run disk).exit = .normal)
    (hc : configurationAt call.world.host disk inputs.config = .ok configuration)
    (hf : (configuration.outputOf inputs.variant).version.fromTag = true) :
    ∃ build, Leaves call.world inputs configuration build (call.run disk).disk := by
  obtain ⟨outcome, effect, between, he, hchanges, -, hends, -⟩ := run_of_ok hr disk
  have hgrows := hchanges.grows.trans hends.extends
  obtain ⟨outputs, rfl⟩ := (hn ▸ hends).exists_outputs
  obtain ⟨build, text, hresolves, hw, rfl⟩ := he.exists_saved hl hc hf
  obtain ⟨hnull, place, hp, hfiles⟩ := hchanges.files
  have htarget : disk.target? inputs.buildPath.toText = some place := by
    rw [← hchanges.grows.target?_eq]
    exact Disk.target?_of_place hp
  -- Two files are written: the build file, and then the one for the outputs. The configuration
  -- stands apart from both, and the build file from the second.
  refine ⟨build, hresolves, Build.exists_write_number_of_write hw, ?_, ?_, ?_⟩
  · refine configurationAt_of_extends hc hgrows fun path hpath other ho ↦ ?_
    rw [hends.bytes?_of_ne]
    · apply hchanges.bytes?_of_ne
      rintro path' text' ⟨⟩
      rw [← ho]
      exact (ha.build path hpath).symm
    · intro hset
      rw [hchanges.grows.target?_eq, ← ho]
      exact ha.config hset path hpath
  · refine buildAt_of_write hnull (hends.extends.place hp) hw ?_
    rw [hends.bytes?_of_ne]
    · rw [bytes?_of_files_eq_putBytes hfiles, if_pos rfl]
    · intro hset
      rw [hchanges.grows.target?_eq, ← htarget]
      exact ha.outputs hset
  · rw [hn] at hends
    exact fun hset text ↦ hends.exists_appendText hset text

/-- After a run that has written the build file, the next one prints the name of the next tag. -/
theorem run_of_leaves {call : Call} {inputs' : Inputs}
    (h : Leaves world inputs configuration build disk)
    (hhost : call.world.host = world.host)
    (henv : call.world.environment = world.environment)
    (hr : Inputs.read call.world.environment call.words = .ok inputs')
    (hnext : inputs'.command = .nextTag) (ha : inputs.Agree inputs')
    (hshort : (Nat.toDigits 10 (build.number + 1).natAbs).length ≤ Numeral.maxDigits) :
    ∃ name, build.successorName (configuration.outputOf inputs.variant).tokens = .ok name ∧
      (call.run disk).exit = .normal ∧ (call.run disk).printed = name ++ ['\n'] := by
  have hnumber : Numeral.write (build.number + 1) = .ok (Numeral.digits (build.number + 1)) :=
    if_neg (Nat.not_lt.2 hshort)
  obtain ⟨digits, hdigits⟩ := h.number
  obtain ⟨source, pattern, tags, found, -, hp, -⟩ := h.resolves
  have hpattern : Pattern.ofTokens (configuration.outputOf inputs.variant).tokens build.variant =
      .ok pattern := by
    rw [variant_of_resolves h.resolves]
    exact hp
  obtain ⟨name, hname⟩ := exists_successorName hpattern hdigits hnumber
  have hsuccessor : successorAt call.world inputs' disk = .ok (build, name) := by
    rw [successorAt, hhost, ha.config, h.config, ok_bind, ha.buildPath, h.build, ok_bind, ha.variant, hname]
    rfl
  have hpath : call.world.outputPath = world.outputPath := by
    rw [World.outputPath, henv, World.outputPath]
  obtain ⟨hends, hprinted⟩ := run_concludes hr disk
  obtain ⟨events, he⟩ := commandResult_nextTag call.world hnext hsuccessor hnumber
  rw [he] at hends hprinted
  refine ⟨name, hname, ?_, hprinted⟩
  show (CommandLine.run call.world disk call.words).exit = .normal
  generalize (CommandLine.run call.world disk call.words).exit = exit,
    (CommandLine.run call.world disk call.words).disk = left at hends
  cases hends with
  | unset => rfl
  | handedOn => rfl
  | refused hset hfault =>
    rw [hpath] at hset hfault
    obtain ⟨taken, ht⟩ := h.outputs hset _
    cases ht.symm.trans hfault

/-- After a run that has found the last tag, the next run on the same files prints the name of the
tag after it, if the number of that one can be written. -/
theorem next_after_last {last next : Call} {inputs' : Inputs}
    (hhost : next.world.host = last.world.host)
    (henv : next.world.environment = last.world.environment)
    (hr : Inputs.read last.world.environment last.words = .ok inputs)
    (hr' : Inputs.read next.world.environment next.words = .ok inputs')
    (hlast : inputs.command = .lastTag) (hnext : inputs'.command = .nextTag)
    (hagree : inputs.Agree inputs') (hapart : Apart last.world inputs disk)
    (hnormal : (last.run disk).exit = .normal)
    (hc : configurationAt last.world.host disk inputs.config = .ok configuration)
    (hf : (configuration.outputOf inputs.variant).version.fromTag = true)
    (hshort : ∀ build, Resolves last.world inputs configuration build →
      (Nat.toDigits 10 (build.number + 1).natAbs).length ≤ Numeral.maxDigits) :
    ∃ build name, Resolves last.world inputs configuration build ∧
      build.successorName (configuration.outputOf inputs.variant).tokens = .ok name ∧
      (next.run (last.run disk).disk).exit = .normal ∧
      (next.run (last.run disk).disk).printed = name ++ ['\n'] := by
  obtain ⟨build, hleaves⟩ := leaves_of_lastTag hr hlast hapart hnormal hc hf
  obtain ⟨name, hname, hexit, hprinted⟩ := run_of_leaves hleaves hhost henv hr' hnext hagree
    (hshort build hleaves.resolves)
  exact ⟨build, name, hleaves.resolves, hname, hexit, hprinted⟩

/-- The last tag of a repository without tags is the stub, and the next tag has number two. -/
theorem untagged_next_after_last : ∃ build name,
    Resolves (Call.untagged "last-tag").world (.plain .lastTag "debug") {} build ∧
      build.successorName none = .ok name ∧
      ((Call.untagged "next-tag").run ((Call.untagged "last-tag").run {}).disk).exit = .normal ∧
      ((Call.untagged "next-tag").run ((Call.untagged "last-tag").run {}).disk).printed =
        name ++ ['\n'] := by
  have hlast : Inputs.read (Call.untagged "last-tag").world.environment
      (Call.untagged "last-tag").words = .ok (.plain .lastTag "debug") := by decide +kernel
  have hnext : Inputs.read (Call.untagged "next-tag").world.environment
      (Call.untagged "next-tag").words = .ok (.plain .nextTag "debug") := by decide +kernel
  have hapart : Apart (Call.untagged "last-tag").world (.plain .lastTag "debug") {} := by
    refine ⟨?_, ?_, ?_⟩
    · rintro path ⟨⟩
    · intro
      decide +kernel
    · rintro - path ⟨⟩
  have hnormal : ((Call.untagged "last-tag").run {}).exit = .normal := by decide +kernel
  refine next_after_last rfl rfl hlast hnext rfl rfl ⟨rfl, rfl, rfl, rfl⟩ hapart hnormal rfl rfl ?_
  rintro build ⟨source, pattern, tags, found, ho, hp, ht, hm, rfl⟩
  cases ho
  cases ht
  cases hm
  decide

end BuildTags.CommandLine
