import BuildTags.Proofs.Build.Document
import BuildTags.Proofs.Build.Successor
import BuildTags.Proofs.CommandLine.Run
import BuildTags.Proofs.Configuration.Reader
import BuildTags.Proofs.Disk.File

namespace BuildTags.CommandLine

open Run

def stampAt (world : World) (inputs : Inputs) (disk : Disk) : Except Failure Version.Stamp := do
  let configuration ← configurationAt world.host disk inputs.config
  let source ← (openSource world inputs).outcome
  let output := configuration.outputOf inputs.variant
  (Version.ofSource source inputs.variant output.version output.tokens).outcome

def changelogAt (world : World) (inputs : Inputs) (disk : Disk) : Except Failure Text := do
  let configuration ← configurationAt world.host disk inputs.config
  let source ← (openSource world inputs).outcome
  (Changelog.ofSource source inputs.variant configuration.changelog
    (configuration.outputOf inputs.variant).tokens).outcome

def successorAt (world : World) (inputs : Inputs) (disk : Disk) :
    Except Failure (Build × Text) := do
  let configuration ← configurationAt world.host disk inputs.config
  let build ← buildAt world.host disk inputs.buildPath
  let tag ← build.successorName (configuration.outputOf inputs.variant).tokens
  pure (build, tag)

structure Outputs.IsOf (outputs : Outputs) (stamp : Version.Stamp) : Prop where
  tag : outputs.tag = (stamp.build.map (·.name)).getD []
  versionCode : outputs.versionCode = (stamp.code.map Numeral.digits).getD []
  versionName : outputs.versionName = stamp.name.getD []
  buildNumber : outputs.buildNumber = (stamp.build.map (Numeral.digits ·.number)).getD []

def assignmentLine (pair : Text × Text) : Text := pair.1 ++ '=' :: pair.2 ++ ['\n']

def Outputs.pairs (outputs : Outputs) : List (Text × Text) :=
  [("tag", outputs.tag), ("version-code", outputs.versionCode),
   ("version-name", outputs.versionName), ("build-number", outputs.buildNumber)]

theorem Outputs.block_eq (outputs : Outputs) :
    outputs.block = outputs.pairs.flatMap assignmentLine := by
  have hjoin : ∀ tag code name number feed : Text, tag = ("tag" : Text) ++ ['='] →
      code = '\n' :: ("version-code" : Text) ++ ['='] →
      name = '\n' :: ("version-name" : Text) ++ ['='] →
      number = '\n' :: ("build-number" : Text) ++ ['='] → feed = ['\n'] →
      tag ++ outputs.tag ++ code ++ outputs.versionCode ++ name ++ outputs.versionName ++ number ++
        outputs.buildNumber ++ feed = outputs.pairs.flatMap assignmentLine := by
    rintro _ _ _ _ _ rfl rfl rfl rfl rfl
    simp only [pairs, List.flatMap_cons, List.flatMap_nil, assignmentLine, List.append_assoc,
      List.cons_append, List.nil_append]
  exact hjoin _ _ _ _ _ (by decide) (by decide) (by decide) (by decide) (by decide)

/-- What a command prints, and the text that it puts in a file. -/
structure Effect where
  printed : Text := []
  written : Option (Disk.Path × Text) := none

/-- How an effect changes a disk. Folders may be made on the way. -/
structure Effect.Changes (effect : Effect) (disk disk' : Disk) : Prop where
  grows : Disk.Extends disk disk'
  files : match effect.written with
    | none => disk'.files = disk.files
    | some (path, text) => '\x00' ∉ path.toText ∧ ∃ place, disk'.place path = .ok place ∧
        disk'.files = Disk.putBytes place (Utf8.encode text) disk.files

inductive Succeeds (world : World) (inputs : Inputs) (disk : Disk) : Outputs → Effect → Prop
  | saved {stamp : Version.Stamp} {build : Build} {text : Text} {outputs : Outputs}
      (hc : inputs.command = .lastTag) (hs : stampAt world inputs disk = .ok stamp)
      (hb : stamp.build = some build) (hw : build.write = .ok text)
      (ho : outputs.IsOf stamp) :
      Succeeds world inputs disk outputs { written := some (inputs.buildPath, text) }
  | unsaved {stamp : Version.Stamp} {outputs : Outputs}
      (hc : inputs.command = .lastTag) (hs : stampAt world inputs disk = .ok stamp)
      (hb : stamp.build = none) (ho : outputs.IsOf stamp) :
      Succeeds world inputs disk outputs {}
  | version {stamp : Version.Stamp} {outputs : Outputs}
      (hc : inputs.command = .versionCode ∨ inputs.command = .versionName)
      (hs : stampAt world inputs disk = .ok stamp) (ho : outputs.IsOf stamp) :
      Succeeds world inputs disk outputs
        { printed := (if inputs.command = .versionCode then outputs.versionCode
            else outputs.versionName) ++ ['\n'] }
  | changelogSaved {path : Disk.Path} {text : Text} (hc : inputs.command = .changelog)
      (hp : inputs.changelogFile = some path) (ht : changelogAt world inputs disk = .ok text) :
      Succeeds world inputs disk {} { written := some (path, text) }
  | changelogShown {text : Text} (hc : inputs.command = .changelog)
      (hp : inputs.changelogFile = none) (ht : changelogAt world inputs disk = .ok text) :
      Succeeds world inputs disk {} { printed := text ++ ['\n'] }
  | successor {build : Build} {tag number : Text} (hc : inputs.command = .nextTag)
      (ht : successorAt world inputs disk = .ok (build, tag))
      (hn : Numeral.write (build.number + 1) = .ok number) :
      Succeeds world inputs disk { tag, buildNumber := number } { printed := tag ++ ['\n'] }
  | fileName {configuration : Configuration} {stamp : Version.Stamp} {name : Text}
      {outputs : Outputs} (hc : inputs.command = .apkName)
      (hf : configurationAt world.host disk inputs.config = .ok configuration)
      (hs : stampAt world inputs disk = .ok stamp)
      (hn : Version.fileName (configuration.outputOf inputs.variant).baseFileName stamp.build
        inputs.outputName world.today = .ok name)
      (ho : outputs.IsOf stamp) :
      Succeeds world inputs disk outputs { printed := name ++ ['\n'] }

/-- The failures that no command reports: an issue pattern that repeats something too often or is
nested too deeply, a document that is nested too deeply, and a service that refuses the
repository. -/
inductive Unreported (world : World) (inputs : Inputs) (disk : Disk) : Failure → Prop
  | count (hf : configurationAt world.host disk inputs.config = .error (.regex .countTooLarge)) :
      Unreported world inputs disk (.regex .countTooLarge)
  | expression (hf : configurationAt world.host disk inputs.config = .error (.regex .tooDeep)) :
      Unreported world inputs disk (.regex .tooDeep)
  | document {path : Disk.Path} {text : Text} (hp : inputs.config = some path)
      (ht : disk.readText path = .ok text) (hd : world.host.deepDocument text = true) :
      Unreported world inputs disk (.configuration (.beyond .depth))
  | build {configuration : Configuration} {text : Text} (hc : inputs.command = .nextTag)
      (hf : configurationAt world.host disk inputs.config = .ok configuration)
      (ht : disk.readText inputs.buildPath = .ok text)
      (hd : world.host.deepDocument text = true) :
      Unreported world inputs disk (.build (.beyond .depth))
  | refusal {configuration : Configuration} {refusal : Repository.Refusal}
      (hf : configurationAt world.host disk inputs.config = .ok configuration)
      (hc : inputs.command ≠ .nextTag) (hs : inputs.source = "github")
      (ht : Repository.orVariable inputs.token (world.environment.getOr "GITHUB_TOKEN" []) ≠ [])
      (hr : Repository.orVariable inputs.repository
        (world.environment.getOr "GITHUB_REPOSITORY" []) ≠ [])
      (ha : world.service.repository = .error refusal) :
      Unreported world inputs disk (.service refusal.shown)

/-- Whether the documents that a command may read have no text with half a surrogate pair. -/
def Paired (world : World) (inputs : Inputs) (disk : Disk) : Prop :=
  ∀ path text, inputs.config = some path ∨ inputs.command = .nextTag ∧ inputs.buildPath = path →
    disk.readText path = .ok text →
    Json.read (some Numeral.maxDigits) text world.host.deepDocument ≠ .error (.beyond .unpaired)

/-- How a command ends, and its effect. A failure comes before every effect, save for a version code
or build number that cannot be written as an output. -/
inductive Ends (world : World) (inputs : Inputs) (disk : Disk) :
    Except Failure Outputs → Effect → Prop
  | done {outputs : Outputs} {effect : Effect} (h : Succeeds world inputs disk outputs effect) :
      Ends world inputs disk (.ok outputs) effect
  | reported {failure : Failure} (hr : failure.isReported = true) :
      Ends world inputs disk (.error failure) {}
  | unreported {failure : Failure} (h : Unreported world inputs disk failure) :
      Ends world inputs disk (.error failure) {}
  | unpaired {failure : Failure} (hp : ¬Paired world inputs disk) :
      Ends world inputs disk (.error failure) {}
  | unwritten {stamp : Version.Stamp} {fault : Numeral.Fault} {effect : Effect}
      (hs : stampAt world inputs disk = .ok stamp) (ho : Outputs.ofStamp stamp = .error fault)
      (hw : ∀ path text, effect.written = some (path, text) → path ∈ inputs.files) :
      Ends world inputs disk (.error (.numeral fault)) effect

/-- Whether an effect is all that has happened between two moments, apart from events. -/
structure Did (effect : Effect) (before now : Progress) : Prop where
  printed : now.printed = before.printed ++ effect.printed
  changes : effect.Changes before.disk now.disk

def Leads (world : World) (inputs : Inputs) (before : Progress)
    (result : Except Failure Outputs × Progress) : Prop :=
  ∃ effect, Ends world inputs before.disk result.1 effect ∧ Did effect before result.2

variable {world : World} {inputs : Inputs} {before now : Progress} {effect : Effect}

def Outputs.numberText : Option Int → Except Numeral.Fault Text
  | none => .ok []
  | some n => Numeral.write n

theorem Outputs.ofStamp_eq (stamp : Version.Stamp) : Outputs.ofStamp stamp =
    numberText stamp.code >>= fun versionCode ↦
      (numberText (stamp.build.map (·.number))).map fun buildNumber ↦
        ⟨(stamp.build.map (·.name)).getD [], versionCode, stamp.name.getD [], buildNumber⟩ := by
  obtain ⟨code, name, build⟩ := stamp
  cases code <;> cases build <;> rfl

theorem Outputs.eq_of_numberText {n : Option Int} {text : Text} (h : numberText n = .ok text) :
    text = (n.map Numeral.digits).getD [] := by
  cases n with
  | none => exact (Except.ok.inj h).symm
  | some n =>
    rw [numberText, Numeral.write] at h
    split at h
    · cases h
    · exact (Except.ok.inj h).symm

theorem Outputs.isOf_of_ofStamp {stamp : Version.Stamp} {outputs : Outputs}
    (h : ofStamp stamp = .ok outputs) : outputs.IsOf stamp := by
  rw [ofStamp_eq] at h
  obtain ⟨versionCode, hc, h⟩ := bind_eq_ok_iff.1 h
  obtain ⟨buildNumber, hn, rfl⟩ := map_eq_ok_iff.1 h
  refine ⟨rfl, eq_of_numberText hc, rfl, (eq_of_numberText hn).trans ?_⟩
  rw [Option.map_map]
  rfl

theorem Did.refl (before : Progress) : Did {} before before :=
  ⟨(List.append_nil _).symm, .refl _, rfl⟩

theorem Did.withEvents (h : Did effect before now) (events : List Event) :
    Did effect before { now with events } := ⟨h.printed, h.changes⟩

theorem Did.print (h : Did {} before now) (text : Text) :
    Did { printed := text ++ ['\n'] } before
      { now with printed := now.printed ++ text ++ ['\n'] } := by
  refine ⟨?_, h.changes.grows, h.changes.files⟩
  show now.printed ++ text ++ ['\n'] = before.printed ++ (text ++ ['\n'])
  rw [h.printed, List.append_nil, List.append_assoc]

theorem Did.addFolders (h : Did {} before now) {disk : Disk} (ha : Disk.AddsFolders now.disk disk) :
    Did {} before { now with disk } :=
  ⟨h.printed, h.changes.grows.trans ha.grows, ha.files.trans h.changes.files⟩

theorem Did.write (h : Did {} before now) {path : Disk.Path} {text : Text} {disk : Disk}
    (hw : now.disk.writeText path text = .ok disk) :
    Did { written := some (path, text) } before { now with disk } := by
  have hgrows := Disk.extends_of_writeText hw
  obtain ⟨hn, place, hp, -, rfl⟩ := Disk.writeText_eq_ok_iff.1 hw
  refine ⟨h.printed, h.changes.grows.trans hgrows, hn, place, hgrows.place hp, ?_⟩
  have hf : now.disk.files = before.disk.files := h.changes.files
  rw [Disk.withFile, hf]

theorem failsOnly_textAt {P : Failure → Prop} {refused : Text → Failure}
    (hr : ∀ reason, P (refused reason)) (hd : ∀ fault, P (.disk fault)) (disk : Disk)
    (path : Disk.Path) : FailsOnly P (textAt disk path refused) := by
  rw [textAt]
  split
  · exact .ok _
  · exact .error (hr _)
  · exact .error (hd _)

theorem textAt_eq_ok_iff {refused : Text → Failure} {disk : Disk} {path : Disk.Path} {text : Text} :
    textAt disk path refused = .ok text ↔ disk.readText path = .ok text := by
  rw [textAt]
  split
  · rename_i hf
    simp [hf]
  · rename_i hf
    simp [hf]
  · rename_i fault hne hf
    simp [hf]

def IsBeyond (host : Host) (disk : Disk) (path : Disk.Path) (bound : Json.Bound) : Prop :=
  ∃ text, disk.readText path = .ok text ∧
    Json.read (some Numeral.maxDigits) text host.deepDocument = .error (.beyond bound)

theorem isFault_configurationAt (host : Host) (disk : Disk) (path : Option Disk.Path) :
    FailsOnly (fun failure ↦ Configuration.IsFault failure ∨ ∃ file bound, path = some file ∧
      failure = .configuration (.beyond bound) ∧ IsBeyond host disk file bound)
      (configurationAt host disk path) := by
  cases path with
  | none => exact .ok _
  | some path =>
    refine .bind (failsOnly_textAt (fun _ ↦ .inl (.inl rfl)) (fun _ ↦ .inl (.inl rfl)) disk path)
      fun text ht ↦ ?_
    refine (Configuration.isFault_read _ text).mono fun failure hf ↦ hf.imp_right ?_
    rintro ⟨bound, rfl, hb⟩
    exact ⟨path, bound, rfl, rfl, text, textAt_eq_ok_iff.1 ht, hb⟩

theorem isFault_buildAt (host : Host) (disk : Disk) (path : Disk.Path) :
    FailsOnly (fun failure ↦ failure.isReported = true ∨ ∃ bound,
      failure = .build (.beyond bound) ∧ IsBeyond host disk path bound)
      (buildAt host disk path) := by
  refine .bind (failsOnly_textAt (fun _ ↦ .inl rfl) (fun _ ↦ .inl rfl) disk path) fun text ht ↦ ?_
  refine (Build.isFault_read text host).mono fun failure hf ↦ hf.imp_right ?_
  rintro ⟨bound, rfl, hb⟩
  exact ⟨bound, rfl, text, textAt_eq_ok_iff.1 ht, hb⟩

theorem hasFormat_of_configurationAt {host : Host} {disk : Disk} {path : Option Disk.Path}
    {configuration : Configuration} (h : configurationAt host disk path = .ok configuration) :
    configuration.changelog.HasFormat := by
  cases path with
  | none =>
    obtain rfl := Except.ok.inj h
    exact Changelog.hasFormat_default
  | some path =>
    obtain ⟨text, -, h⟩ := bind_eq_ok_iff.1 h
    exact Configuration.hasFormat_of_read h

namespace Leads

variable {α : Type} {step : Run α} {next : α → Run Outputs} {outcome : Disk → Except Failure α}

theorem error {failure : Failure} (h : Did {} before now) (hr : failure.isReported = true) :
    Leads world inputs before (.error failure, now) := ⟨{}, .reported hr, h⟩

theorem look (h : Did {} before now) (q : Quiet step outcome)
    (hf : ∀ failure, outcome now.disk = .error failure → Ends world inputs before.disk (.error failure) {})
    (hn : ∀ a events, outcome now.disk = .ok a →
      Leads world inputs before ((next a).result { now with events })) :
    Leads world inputs before ((step >>= next).result now) := by
  cases ho : outcome now.disk with
  | error failure =>
    obtain ⟨events, he⟩ := q.result_bind_of_error ho
    rw [he]
    exact ⟨{}, hf failure ho, h.withEvents events⟩
  | ok a =>
    obtain ⟨events, he⟩ := q.result_bind_of_ok ho
    rw [he]
    exact hn a events ho

theorem quiet (h : Did {} before now) (q : Quiet step outcome) (hr : Reports (outcome now.disk))
    (hn : ∀ a events, outcome now.disk = .ok a →
      Leads world inputs before ((next a).result { now with events })) :
    Leads world inputs before ((step >>= next).result now) :=
  look h q (fun failure ho ↦ .reported (hr failure ho)) hn

theorem note {level : Level} {text : Text} {next : Unit → Run Outputs}
    (hn : ∀ events, Leads world inputs before ((next ()).result { now with events })) :
    Leads world inputs before ((Run.note level text >>= next).result now) := by
  obtain ⟨events, he⟩ := (Quiet.note level text).result_bind_of_ok rfl
  rw [he]
  exact hn events

theorem makeParent {path : Disk.Path} {next : Unit → Run Outputs} (h : Did {} before now)
    (hn : ∀ now, Did {} before now → Leads world inputs before ((next ()).result now)) :
    Leads world inputs before ((change (·.makeParent path) >>= next).result now) := by
  have ha := Disk.AddsFolders.makeParent now.disk path
  have hr := result_change (·.makeParent path) now
  cases ho : (now.disk.makeParent path).2 with
  | error fault =>
    rw [ho] at hr
    rw [Run.result_bind_of_error hr]
    exact error (h.addFolders ha) rfl
  | ok done =>
    rw [ho] at hr
    rw [Run.result_bind_of_ok hr]
    exact hn _ (h.addFolders ha)

theorem writeText {path : Disk.Path} {text : Text} {next : Unit → Run Outputs}
    (h : Did {} before now)
    (hn : ∀ now, Did { written := some (path, text) } before now →
      Leads world inputs before ((next ()).result now)) :
    Leads world inputs before ((changeOrLeave (·.writeText path text) >>= next).result now) := by
  have hr := result_changeOrLeave (·.writeText path text) now
  cases hw : now.disk.writeText path text with
  | error fault =>
    simp only [hw] at hr
    rw [Run.result_bind_of_error hr]
    exact error h rfl
  | ok disk =>
    simp only [hw] at hr
    rw [Run.result_bind_of_ok hr]
    exact hn _ (h.write hw)

theorem outputs {stamp : Version.Stamp} (h : Did effect before now)
    (hs : stampAt world inputs before.disk = .ok stamp)
    (hw : ∀ path text, effect.written = some (path, text) → path ∈ inputs.files)
    (ho : ∀ outputs, outputs.IsOf stamp → Succeeds world inputs before.disk outputs effect) :
    Leads world inputs before ((outputsOf stamp).result now) := by
  rw [outputsOf, result_traced]
  refine ⟨effect, ?_, h.withEvents _⟩
  show Ends world inputs before.disk ((Outputs.ofStamp stamp).mapError .numeral) effect
  cases he : Outputs.ofStamp stamp with
  | error fault => exact .unwritten hs he hw
  | ok outputs => exact .done (ho outputs (Outputs.isOf_of_ofStamp he))

end Leads

section

variable {configuration : Configuration} {source : Repository.Source}
  (hf : configurationAt world.host before.disk inputs.config = .ok configuration)
  (hs : (openSource world inputs).outcome = .ok source) (hr : source.IsReported)
  (h : Did {} before now)

include hf hs hr h

theorem leads_findStamp {next : Version.Stamp → Run Outputs}
    (hn : ∀ stamp now, Did {} before now → stampAt world inputs before.disk = .ok stamp →
      Leads world inputs before ((next stamp).result now)) :
    Leads world inputs before ((findStamp source configuration inputs >>= next).result now) := by
  refine .quiet h (.traced _) (Version.reports_ofSource hr.allTags _ _ _) fun stamp events ho ↦ ?_
  refine hn stamp _ (h.withEvents events) ?_
  rw [stampAt, hf, ok_bind, hs]
  exact ho

theorem leads_lastTag (hc : inputs.command = .lastTag) :
    Leads world inputs before ((lastTag source configuration inputs).result now) := by
  refine leads_findStamp hf hs hr h fun stamp now h ho ↦ ?_
  cases hb : stamp.build with
  | none =>
    refine .note fun events ↦ .outputs (h.withEvents events) ho ?_ fun outputs he ↦ ?_
    · rintro path text ⟨⟩
    · exact .unsaved hc ho hb he
  | some build =>
    simp only [saveBuild, bind_assoc]
    refine .makeParent h fun now h ↦ .quiet h (.traced _) (.mapError fun _ ↦ rfl) ?_
    intro text events hw
    refine .writeText (h.withEvents events) fun now h ↦ .note fun events ↦ ?_
    refine .outputs (h.withEvents events) ho ?_ fun outputs he ↦ ?_
    · rintro path text ⟨⟩
      exact List.mem_append_right _ (List.mem_singleton_self _)
    · exact .saved hc ho hb (mapError_eq_ok_iff.1 hw) he

theorem leads_versions (hc : inputs.command = .versionCode ∨ inputs.command = .versionName) :
    Leads world inputs before ((versions source configuration inputs).result now) := by
  refine leads_findStamp hf hs hr h fun stamp now h ho ↦ ?_
  refine .quiet h (.traced _) (.mapError fun _ ↦ rfl) fun outputs events he ↦ ?_
  rw [Run.result_bind_of_ok (result_print _ _)]
  refine ⟨_, .done (.version hc ho (Outputs.isOf_of_ofStamp (mapError_eq_ok_iff.1 he))), ?_⟩
  exact (h.withEvents events).print _

theorem leads_apkName (hc : inputs.command = .apkName) :
    Leads world inputs before ((apkName world source configuration inputs).result now) := by
  refine leads_findStamp hf hs hr h fun stamp now h ho ↦ ?_
  refine .quiet h (.traced _) (.mapError fun _ ↦ rfl) fun name events hn ↦ ?_
  rw [Run.result_bind_of_ok (result_print _ _)]
  -- The name is printed by now, also where the outputs fail.
  refine .outputs ((h.withEvents events).print name) ho ?_ fun outputs he ↦ ?_
  · rintro path text ⟨⟩
  · exact .fileName hc hf ho (mapError_eq_ok_iff.1 hn) he

theorem leads_changelog (hc : inputs.command = .changelog)
    (hl : configuration.changelog.HasFormat) :
    Leads world inputs before ((changelog source configuration inputs).result now) := by
  refine .quiet h (.traced _) (Changelog.reports_ofSource hr hl _ _) fun text events ho ↦ ?_
  have ht : changelogAt world inputs before.disk = .ok text := by
    rw [changelogAt, hf, ok_bind, hs]
    exact ho
  have h := h.withEvents events
  cases hp : inputs.changelogFile with
  | none =>
    rw [Run.result_bind_of_ok (result_print _ _)]
    exact ⟨_, .done (.changelogShown hc hp ht), h.print text⟩
  | some path =>
    refine .makeParent h fun now h ↦ .writeText h fun now h ↦ .note fun events ↦ ?_
    exact ⟨_, .done (.changelogSaved hc hp ht), h.withEvents events⟩

end

theorem leads_nextTag {configuration : Configuration} (hc : inputs.command = .nextTag)
    (hf : configurationAt world.host before.disk inputs.config = .ok configuration) (h : Did {} before now)
    (hd : now.disk = before.disk) :
    Leads world inputs before ((nextTag world configuration inputs).result now) := by
  refine .look h (.look _) ?_ fun build events hb ↦ ?_
  · intro failure hfailure
    rw [hd] at hfailure
    rcases isFault_buildAt _ _ _ failure hfailure with hr | ⟨bound, rfl, text, ht, hb⟩
    · exact .reported hr
    · cases bound with
      | depth => exact .unreported (.build hc hf ht (Json.read_eq_depth_iff.1 hb))
      | unpaired => exact .unpaired fun hp ↦ hp _ text (.inr ⟨hc, rfl⟩) ht hb
  refine .quiet (h.withEvents events) (.traced _) (Build.reports_successorName _ _)
    fun tag events ht ↦ ?_
  have hsuccessor : successorAt world inputs before.disk = .ok (build, tag) := by
    rw [hd] at hb
    have ht : build.successorName (configuration.outputOf inputs.variant).tokens = .ok tag := ht
    rw [successorAt, hf, ok_bind, hb, ok_bind, ht]
    rfl
  obtain ⟨number, hn, -⟩ := bind_eq_ok_iff.1 ht
  have hn : Numeral.write (build.number + 1) = .ok number := mapError_eq_ok_iff.1 hn
  rw [Run.result_bind_of_ok (result_print _ _), hn]
  refine ⟨_, .done (.successor hc hsuccessor hn), ?_⟩
  exact ((h.withEvents events).print tag).withEvents _

theorem leads_openSource {configuration : Configuration} {next : Repository.Source → Run Outputs}
    (hf : configurationAt world.host before.disk inputs.config = .ok configuration)
    (hc : inputs.command ≠ .nextTag) (h : Did {} before now)
    (hn : ∀ source now, (openSource world inputs).outcome = .ok source → source.IsReported →
      Did {} before now → Leads world inputs before ((next source).result now)) :
    Leads world inputs before ((traced (openSource world inputs) >>= next).result now) := by
  have herror : ∀ failure, (openSource world inputs).outcome = .error failure →
      Ends world inputs before.disk (.error failure) {} →
      Leads world inputs before ((traced (openSource world inputs) >>= next).result now) := by
    intro failure ho hend
    obtain ⟨events, he⟩ := (Quiet.traced (openSource world inputs)).result_bind_of_error ho
    rw [he]
    exact ⟨{}, hend, h.withEvents events⟩
  have hok : ∀ source, (openSource world inputs).outcome = .ok source → source.IsReported →
      Leads world inputs before ((traced (openSource world inputs) >>= next).result now) := by
    intro source ho hr
    obtain ⟨events, he⟩ := (Quiet.traced (openSource world inputs)).result_bind_of_ok ho
    rw [he]
    exact hn source _ ho hr (h.withEvents events)
  by_cases hs : inputs.source = "github"
  · have hopen : openSource world inputs = Repository.serviceSource _ _ _ := if_pos hs
    rcases Repository.outcome_serviceSource
        (Repository.orVariable inputs.token (world.environment.getOr "GITHUB_TOKEN" []))
        (Repository.orVariable inputs.repository (world.environment.getOr "GITHUB_REPOSITORY" []))
        world.service with
      ⟨missing, ho⟩ | ⟨ht, hr, refusal, ha, ho⟩ | ⟨source, ho, hr⟩
    · exact herror _ (hopen ▸ ho) (.reported rfl)
    · exact herror _ (hopen ▸ ho) (.unreported (.refusal hf hc hs ht hr ha))
    · exact hok source (hopen ▸ ho) hr
  · have hopen : openSource world inputs = pure (Repository.gitSource _ _) := if_neg hs
    exact hok _ (by rw [hopen]; rfl) (Repository.isReported_gitSource _ _)

theorem leads_perform (world : World) (inputs : Inputs) (before : Progress) :
    Leads world inputs before ((perform world inputs).result before) := by
  cases hf : configurationAt world.host before.disk inputs.config with
  | error failure =>
    obtain ⟨events, he⟩ := (quiet_loadConfiguration _ _).result_bind_of_error hf
    rw [perform, he]
    refine ⟨{}, ?_, (Did.refl before).withEvents events⟩
    rcases isFault_configurationAt _ _ _ failure hf with
      (hr | rfl | rfl) | ⟨path, bound, hp, rfl, text, ht, hb⟩
    · exact .reported hr
    · exact .unreported (.count hf)
    · exact .unreported (.expression hf)
    · cases bound with
      | depth => exact .unreported (.document hp ht (Json.read_eq_depth_iff.1 hb))
      | unpaired => exact .unpaired fun hpaired ↦ hpaired path text (.inl hp) ht hb
  | ok configuration =>
    obtain ⟨events, he⟩ := (quiet_loadConfiguration _ _).result_bind_of_ok hf
    rw [perform, he]
    have h := (Did.refl before).withEvents events
    cases hc : inputs.command with
    | nextTag => exact leads_nextTag hc hf h rfl
    | lastTag =>
      refine leads_openSource hf (by simp [hc]) h fun source now hs hr h ↦ ?_
      exact leads_lastTag hf hs hr h hc
    | versionCode =>
      refine leads_openSource hf (by simp [hc]) h fun source now hs hr h ↦ ?_
      exact leads_versions hf hs hr h (.inl hc)
    | versionName =>
      refine leads_openSource hf (by simp [hc]) h fun source now hs hr h ↦ ?_
      exact leads_versions hf hs hr h (.inr hc)
    | changelog =>
      refine leads_openSource hf (by simp [hc]) h fun source now hs hr h ↦ ?_
      exact leads_changelog hf hs hr h hc (hasFormat_of_configurationAt hf)
    | apkName =>
      refine leads_openSource hf (by simp [hc]) h fun source now hs hr h ↦ ?_
      exact leads_apkName hf hs hr h hc

end BuildTags.CommandLine
