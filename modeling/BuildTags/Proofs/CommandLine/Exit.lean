import BuildTags.Proofs.CommandLine.Command

namespace BuildTags.CommandLine

open Run

def start (inputs : Inputs) (disk : Disk) : Progress where
  disk
  events := [.note ⟨.debug, "Command: " ++ inputs.command.name ++ ", variant: " ++ inputs.variant ++
    ", source: " ++ inputs.source⟩]

def commandResult (world : World) (inputs : Inputs) (disk : Disk) :
    Except Failure Outputs × Progress :=
  (perform world inputs).result (start inputs disk)

def World.outputPath (world : World) : Text := world.environment.getOr "GITHUB_OUTPUT" []

inductive Concludes (world : World) (disk : Disk) : Except Failure Outputs → Exit → Disk → Prop
  | reported {failure : Failure} (hr : failure.isReported = true) :
      Concludes world disk (.error failure) (.status 1) disk
  | escaped {failure : Failure} (hr : failure.isReported = false) :
      Concludes world disk (.error failure) (.failed failure) disk
  | unset {outputs : Outputs} (hp : world.outputPath = []) :
      Concludes world disk (.ok outputs) .normal disk
  | handedOn {outputs : Outputs} {disk' : Disk} (hp : world.outputPath ≠ [])
      (ha : disk.appendText world.outputPath outputs.block = .ok disk') :
      Concludes world disk (.ok outputs) .normal disk'
  | refused {outputs : Outputs} {fault : Disk.Fault} (hp : world.outputPath ≠ [])
      (ha : disk.appendText world.outputPath outputs.block = .error fault) :
      Concludes world disk (.ok outputs) (.failed (.disk fault)) disk

variable {world : World} {disk : Disk} {words : List Text} {inputs : Inputs}

def exitOf : Except Failure Exit → Exit
  | .ok exit => exit
  | .error failure => .failed failure

theorem session_eq (world : World) (inputs : Inputs) (disk : Disk) :
    (session world inputs).result { disk } = match commandResult world inputs disk with
      | (.ok outputs, now) => (handOn world outputs >>= fun _ ↦ pure Exit.normal).result now
      | (.error failure, now) =>
        if failure.isReported then
          (.ok (.status 1), { now with events := now.events ++ [.note ⟨.error, failure.message⟩] })
        else (.error failure, now) := by
  have hstart : (Run.note .debug ("Command: " ++ inputs.command.name ++ ", variant: " ++
      inputs.variant ++ ", source: " ++ inputs.source)).result { disk } =
        (.ok (), start inputs disk) := rfl
  rw [session, Run.result_bind_of_ok hstart, commandResult]
  cases he : (perform world inputs).result (start inputs disk) with
  | mk outcome now =>
    cases outcome with
    | ok outputs => simp only [Run.result_bind, result_tryCatch, result_map, he, Except.map]
    | error failure =>
      simp only [Run.result_bind, result_tryCatch, result_map, he, Except.map]
      cases failure.isReported <;> rfl

theorem concludes_handOn (world : World) (outputs : Outputs) (now : Progress) :
    Concludes world now.disk (.ok outputs)
        (exitOf ((handOn world outputs >>= fun _ ↦ pure Exit.normal).result now).1)
        ((handOn world outputs >>= fun _ ↦ pure Exit.normal).result now).2.disk ∧
      ((handOn world outputs >>= fun _ ↦ pure Exit.normal).result now).2.printed = now.printed := by
  have hpath : world.environment.getOr "GITHUB_OUTPUT" [] = world.outputPath := rfl
  rw [handOn, hpath]
  split
  · rename_i hp
    exact ⟨.unset hp, rfl⟩
  · rename_i hp
    rw [bind_assoc]
    have hr := result_changeOrLeave (·.appendText world.outputPath outputs.block) now
    cases ha : now.disk.appendText world.outputPath outputs.block with
    | error fault =>
      simp only [ha] at hr
      rw [Run.result_bind_of_error hr]
      exact ⟨.refused hp ha, rfl⟩
    | ok disk =>
      simp only [ha] at hr
      rw [Run.result_bind_of_ok hr]
      exact ⟨.handedOn hp ha, rfl⟩

theorem run_of_stop {stop : Stop} (h : Inputs.read world.environment words = .error stop) :
    run world disk words = ⟨.status stop.status, [], stop.line, [], disk⟩ := by
  rw [run, h]

theorem run_of_inputs (h : Inputs.read world.environment words = .ok inputs) :
    run world disk words =
      ⟨exitOf ((session world inputs).result { disk }).1,
        ((session world inputs).result { disk }).2.printed,
        shownLines inputs.debug
          (((session world inputs).result { disk }).2.events.filterMap Event.note?),
        ((session world inputs).result { disk }).2.events.filterMap Event.request?,
        ((session world inputs).result { disk }).2.disk⟩ := by
  have hr : ExceptT.run (session world inputs) { disk } = (session world inputs).result { disk } :=
    rfl
  simp only [run, h, hr]
  generalize (session world inputs).result { disk } = ended
  obtain ⟨outcome, progress⟩ := ended
  cases outcome <;> rfl

/-- A run ends by what its command comes to, and prints what the command has printed. -/
theorem run_concludes (h : Inputs.read world.environment words = .ok inputs) (disk : Disk) :
    Concludes world (commandResult world inputs disk).2.disk (commandResult world inputs disk).1
        (run world disk words).exit (run world disk words).disk ∧
      (run world disk words).printed = (commandResult world inputs disk).2.printed := by
  rw [run_of_inputs h, session_eq]
  cases commandResult world inputs disk with
  | mk outcome now =>
    cases outcome with
    | ok outputs => exact concludes_handOn world outputs now
    | error failure =>
      cases hr : failure.isReported with
      | true =>
        simp only [hr, if_true]
        exact ⟨.reported hr, trivial⟩
      | false =>
        simp only [hr, Bool.false_eq_true, if_false]
        exact ⟨.escaped hr, trivial⟩

theorem leads_commandResult (world : World) (inputs : Inputs) (disk : Disk) :
    Leads world inputs (start inputs disk) (commandResult world inputs disk) :=
  leads_perform world inputs (start inputs disk)

def World.untagged (bindings : List (Text × Text)) : World where
  environment := ⟨bindings⟩
  git := ⟨.exited 0 [] [], .exited 0 [] []⟩
  service := ⟨.ok (), .ok [], fun _ ↦ .ok ⟨[], none⟩, .ok [], .ok []⟩
  today := ⟨2026, 1, 1⟩

def Inputs.plain (command : Command) (variant : Text) : Inputs where
  command
  variant
  config := none
  source := "git"
  repoPath := .ofText "."
  token := []
  repository := []
  outputDir := .ofText "build/tag-versioning"
  buildFile := none
  changelogFile := none
  outputName := "app.apk"
  debug := false

theorem paired_of_empty (world : World) (inputs : Inputs) : Paired world inputs {} := by
  rintro path text - ht
  obtain ⟨-, place, bytes, found, -, hb, -⟩ := Disk.readText_eq_ok_iff.1 ht
  cases hb

def IsShort (stamp : Version.Stamp) : Prop :=
  ∀ n, stamp.code = some n ∨ stamp.build.map (·.number) = some n →
    (Nat.toDigits 10 n.natAbs).length ≤ Numeral.maxDigits

theorem exists_ofStamp_of_isShort {stamp : Version.Stamp} (h : IsShort stamp) :
    ∃ outputs, Outputs.ofStamp stamp = .ok outputs := by
  have hwrite : ∀ n, stamp.code = some n ∨ stamp.build.map (·.number) = some n →
      Numeral.write n = .ok (Numeral.digits n) := by
    intro n hn
    rw [Numeral.write, if_neg (Nat.not_lt.2 (h n hn))]
  rw [Outputs.ofStamp]
  cases hc : stamp.code with
  | none => cases hb : stamp.build with
    | none => exact ⟨_, rfl⟩
    | some build =>
      have hn : stamp.build.map (·.number) = some build.number := by rw [hb]; rfl
      simp only [hwrite build.number (.inr hn)]
      exact ⟨_, rfl⟩
  | some code => cases hb : stamp.build with
    | none =>
      simp only [hwrite code (.inl hc)]
      exact ⟨_, rfl⟩
    | some build =>
      have hn : stamp.build.map (·.number) = some build.number := by rw [hb]; rfl
      simp only [hwrite code (.inl hc), hwrite build.number (.inr hn)]
      exact ⟨_, rfl⟩

/-- A run that fails has printed nothing and left all files as they were, or it fails at the file for
the outputs after all that its command does. Folders may have been made. -/
theorem files_of_failure (hn : (run world disk words).exit ≠ .normal)
    (hz : (run world disk words).exit ≠ .status 0)
    (hpaired : ∀ inputs, Inputs.read world.environment words = .ok inputs →
      Paired world inputs disk)
    (hs : ∀ inputs stamp, Inputs.read world.environment words = .ok inputs →
      stampAt world inputs disk = .ok stamp → IsShort stamp) :
    Disk.AddsFolders disk (run world disk words).disk ∧ (run world disk words).printed = [] ∨
    ∃ inputs outputs effect fault, Inputs.read world.environment words = .ok inputs ∧
      Succeeds world inputs disk outputs effect ∧ world.outputPath ≠ [] ∧
      (run world disk words).disk.appendText world.outputPath
        (outputs.pairs.flatMap assignmentLine) = .error fault ∧
      (run world disk words).exit = .failed (.disk fault) ∧
      effect.Changes disk (run world disk words).disk ∧
      (run world disk words).printed = effect.printed := by
  cases hr : Inputs.read world.environment words with
  | error stop =>
    rw [run_of_stop hr]
    exact .inl ⟨.refl disk, rfl⟩
  | ok inputs =>
    obtain ⟨hends, hprinted⟩ := run_concludes hr disk
    obtain ⟨effect, he, hd⟩ := leads_commandResult world inputs disk
    rw [hprinted]
    generalize (run world disk words).disk = left, (run world disk words).exit = exit at hends hn hz ⊢
    cases ho : commandResult world inputs disk with
    | mk outcome now =>
      rw [ho] at hends he hd
      have hquiet : ∀ failure, outcome = .error failure →
          Disk.AddsFolders disk now.disk ∧ now.printed = [] := by
        rintro failure rfl
        cases he with
        | reported => exact ⟨⟨hd.changes.files, hd.changes.grows⟩, hd.printed⟩
        | unreported => exact ⟨⟨hd.changes.files, hd.changes.grows⟩, hd.printed⟩
        | unpaired hunpaired => exact absurd (hpaired inputs hr) hunpaired
        | unwritten hstamp hfault =>
          obtain ⟨outputs, hok⟩ := exists_ofStamp_of_isShort (hs inputs _ hr hstamp)
          cases hok.symm.trans hfault
      cases hends with
      | reported => exact .inl (hquiet _ rfl)
      | escaped => exact .inl (hquiet _ rfl)
      | unset => exact absurd rfl hn
      | handedOn => exact absurd rfl hn
      | @refused outputs fault hset ha =>
        cases he with
        | done hsucceeds =>
          exact .inr ⟨inputs, outputs, effect, fault, rfl, hsucceeds, hset, outputs.block_eq ▸ ha,
            rfl, hd.changes, hd.printed⟩

/-- The build file of the stub is written before the file for the outputs is refused. -/
theorem untagged_last_tag_fails :
    let result := run (.untagged [("GITHUB_OUTPUT", "missing/out")]) {}
      ["last-tag", "--variant", "debug"]
    result.exit = .failed (.disk (.refused .notFound "missing/out")) ∧
    ¬Disk.AddsFolders {} result.disk ∧
    ∃ outputs effect, Succeeds (.untagged [("GITHUB_OUTPUT", "missing/out")])
        (.plain .lastTag "debug") {} outputs effect ∧
      effect.Changes {} result.disk ∧ result.printed = effect.printed := by
  intro result
  have hexit : result.exit = .failed (.disk (.refused .notFound "missing/out")) := by decide +kernel
  have hfiles : ¬Disk.AddsFolders {} result.disk := by
    intro ha
    have hwritten : result.disk.files ≠ [] := by decide +kernel
    exact hwritten ha.files
  have hread : Inputs.read (World.untagged [("GITHUB_OUTPUT", "missing/out")]).environment
      ["last-tag", "--variant", "debug"] = .ok (.plain .lastTag "debug") := by decide +kernel
  have hstamp : stampAt (.untagged [("GITHUB_OUTPUT", "missing/out")]) (.plain .lastTag "debug") {} =
      .ok ⟨some 1, some "v0.0.1-debug", some (.stub "debug")⟩ := by decide +kernel
  have hshort : ∀ inputs stamp,
      Inputs.read (World.untagged [("GITHUB_OUTPUT", "missing/out")]).environment
        ["last-tag", "--variant", "debug"] = .ok inputs →
      stampAt (.untagged [("GITHUB_OUTPUT", "missing/out")]) inputs {} = .ok stamp →
      IsShort stamp := by
    intro inputs stamp hr hs
    cases hread.symm.trans hr
    cases hstamp.symm.trans hs
    rintro n (hn | hn)
    · rw [← Option.some.inj hn]
      decide
    · rw [← Option.some.inj hn]
      decide
  have hn : result.exit ≠ .normal := by rw [hexit]; exact Exit.noConfusion
  have hz : result.exit ≠ .status 0 := by rw [hexit]; exact Exit.noConfusion
  refine ⟨hexit, hfiles, ?_⟩
  rcases files_of_failure hn hz (fun inputs _ ↦ paired_of_empty _ inputs) hshort with
    ⟨ha, -⟩ | ⟨inputs, outputs, effect, fault, hr, hsucceeds, -, -, -, hchanges, hprinted⟩
  · exact absurd ha hfiles
  · cases hread.symm.trans hr
    exact ⟨outputs, effect, hsucceeds, hchanges, hprinted⟩

end BuildTags.CommandLine
