import BuildTags.CommandLine.Execute
import BuildTags.Proofs.Build.Document
import BuildTags.Proofs.Disk.File
import BuildTags.Proofs.Disk.Utf8
import BuildTags.Proofs.Text.Uniform

namespace BuildTags

variable {text : Text}

theorem Text.IsVisible.isAscii (h : text.IsVisible) : Utf8.IsAscii text :=
  fun c hc ↦ Nat.lt_trans (h c hc).2 (by decide)

theorem Text.IsVisible.uniformLines (h : text.IsVisible) : uniformLines text = text := by
  apply uniformLines_of_notMem
  intro hc
  have hvisible := (h _ hc).1
  revert hvisible
  decide

theorem Disk.readText_of_isVisible {disk : Disk} {path : Disk.Path} {place : Disk.Place}
    (hn : '\x00' ∉ path.toText) (hp : disk.place path = .ok place)
    (hb : disk.bytes? place = some (Utf8.encode text)) (h : text.IsVisible) :
    disk.readText path = .ok text := by
  refine Disk.readText_eq_ok_iff.2 ⟨hn, place, _, text, hp, hb, ?_, h.uniformLines.symm⟩
  exact Utf8.decode_encode_of_ascii h.isAscii

theorem CommandLine.buildAt_of_write {host : Host} {disk : Disk} {path : Disk.Path} {place : Disk.Place}
    {build : Build} (hn : '\x00' ∉ path.toText) (hp : disk.place path = .ok place)
    (hw : build.write = .ok text) (hb : disk.bytes? place = some (Utf8.encode text)) :
    CommandLine.buildAt host disk path = .ok build := by
  have hread := Disk.readText_of_isVisible hn hp hb (Build.isVisible_of_write hw)
  rw [CommandLine.buildAt, CommandLine.textAt, hread]
  exact Build.read_of_write host hw

end BuildTags
