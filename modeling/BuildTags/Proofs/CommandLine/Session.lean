import BuildTags.Proofs.CommandLine.Exit

namespace BuildTags.CommandLine

open Disk (Place)

structure Call where
  world : World
  words : List Text

namespace Call

def run (call : Call) (disk : Disk) : Result := CommandLine.run call.world disk call.words

/-- What a run hands on: nothing unless it ends normally and there is a file for it. -/
def handedOn? (call : Call) (disk : Disk) : Option Outputs :=
  if (call.run disk).exit = .normal ∧ call.world.outputPath ≠ [] then
    match Inputs.read call.world.environment call.words with
    | .ok inputs => (commandResult call.world inputs disk).1.toOption
    | .error _ => none
  else none

/-- Whether the file for the outputs, where there is one, stands at a place, and every other file
of the run at another one. -/
structure OutputsAt (call : Call) (disk : Disk) (place : Place) : Prop where
  outputs : call.world.outputPath ≠ [] → disk.target? call.world.outputPath = some place
  files : ∀ inputs, Inputs.read call.world.environment call.words = .ok inputs →
    ∀ path ∈ inputs.files, disk.target? path.toText ≠ some place

end Call

def handedOn : Disk → List Call → List Outputs
  | _, [] => []
  | disk, call :: calls => (call.handedOn? disk).toList ++ handedOn (call.run disk).disk calls

variable {disk disk' : Disk} {place : Place} {effect : Effect} {call : Call} {calls : List Call}

theorem bytes?_of_files_eq_putBytes {other : Place} {bytes : List UInt8}
    (h : disk'.files = Disk.putBytes place bytes disk.files) :
    disk'.bytes? other = if other = place then some bytes else disk.bytes? other := by
  rw [← Disk.bytes?_withFile, Disk.bytes?, h, Disk.bytes?, Disk.withFile]

theorem Effect.Changes.bytes?_of_ne (h : effect.Changes disk disk')
    (hne : ∀ path text, effect.written = some (path, text) →
      disk.target? path.toText ≠ some place) : disk'.bytes? place = disk.bytes? place := by
  have hf := h.files
  cases hw : effect.written with
  | none =>
    rw [hw] at hf
    exact Disk.bytes?_of_files_eq hf place
  | some written =>
    obtain ⟨path, text⟩ := written
    rw [hw] at hf
    obtain ⟨-, other, hp, hf⟩ := hf
    have hother : place ≠ other := by
      rintro rfl
      apply hne path text hw
      rw [← h.grows.target?_eq]
      exact Disk.target?_of_place hp
    rw [bytes?_of_files_eq_putBytes hf, if_neg hother]

theorem bytes?_of_appendText {path text : Text} (h : disk.appendText path text = .ok disk')
    (other : Place) : ∃ place, disk.target? path = some place ∧
      disk'.bytes? other = if other = place then
        some ((disk.bytes? place).getD [] ++ Utf8.encode text) else disk.bytes? other := by
  obtain ⟨-, place, hp, rfl⟩ := Disk.appendText_eq_ok_iff.1 h
  exact ⟨place, Disk.target?_of_placeToAppend hp, Disk.bytes?_withFile _ _ _ _⟩

theorem Concludes.extends {world : World} {outcome : Except Failure Outputs} {exit : Exit}
    (h : Concludes world disk outcome exit disk') : Disk.Extends disk disk' := by
  cases h with
  | handedOn hp ha => exact Disk.extends_of_appendText ha
  | _ => exact .refl disk

theorem Concludes.bytes?_of_ne {world : World} {outcome : Except Failure Outputs} {exit : Exit}
    (h : Concludes world disk outcome exit disk')
    (hne : world.outputPath ≠ [] → disk.target? world.outputPath ≠ some place) :
    disk'.bytes? place = disk.bytes? place := by
  cases h with
  | handedOn hp ha =>
    obtain ⟨other, ht, hb⟩ := bytes?_of_appendText ha place
    have hother : place ≠ other := by
      rintro rfl
      exact hne hp ht
    rw [hb, if_neg hother]
  | _ => rfl

theorem Concludes.exists_outputs {world : World} {outcome : Except Failure Outputs}
    (h : Concludes world disk outcome .normal disk') : ∃ outputs, outcome = .ok outputs := by
  cases h with
  | unset => exact ⟨_, rfl⟩
  | handedOn => exact ⟨_, rfl⟩

theorem run_of_error {stop : Stop}
    (h : Inputs.read call.world.environment call.words = .error stop) (disk : Disk) :
    (call.run disk).disk = disk ∧ (call.run disk).exit ≠ .normal ∧ call.handedOn? disk = none := by
  have hrun : call.run disk = ⟨.status stop.status, [], stop.line, [], disk⟩ := run_of_stop h
  rw [Call.handedOn?, hrun]
  exact ⟨rfl, Exit.noConfusion, if_neg fun h ↦ Exit.noConfusion h.1⟩

/-- What a run does that can read its command line: the effect of the command comes first, and then
what the run makes of its outcome. -/
theorem run_of_ok {inputs : Inputs}
    (h : Inputs.read call.world.environment call.words = .ok inputs) (disk : Disk) :
    ∃ outcome effect between, Ends call.world inputs disk outcome effect ∧
      effect.Changes disk between ∧ (call.run disk).printed = effect.printed ∧
      Concludes call.world between outcome (call.run disk).exit (call.run disk).disk ∧
      call.handedOn? disk = if (call.run disk).exit = .normal ∧ call.world.outputPath ≠ [] then
        outcome.toOption else none := by
  obtain ⟨hends, hprinted⟩ := run_concludes h disk
  obtain ⟨effect, he, hd⟩ := leads_commandResult call.world inputs disk
  refine ⟨_, effect, _, he, hd.changes, hprinted.trans hd.printed, hends, ?_⟩
  rw [Call.handedOn?, h]

theorem Call.OutputsAt.after (h : call.OutputsAt disk place) (hgrows : Disk.Extends disk disk') :
    call.OutputsAt disk' place := by
  refine ⟨fun hp ↦ ?_, fun inputs hr path hm ↦ ?_⟩
  · rw [hgrows.target?_eq]
    exact h.outputs hp
  · rw [hgrows.target?_eq]
    exact h.files inputs hr path hm

def Call.untagged (command : Text) : Call :=
  ⟨.untagged [("GITHUB_OUTPUT", "out")], [command, "--variant", "debug"]⟩

end BuildTags.CommandLine
