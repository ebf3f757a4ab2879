import BuildTags.Proofs.Build.File
import BuildTags.Proofs.CommandLine.Run
import BuildTags.Proofs.Json.Writable
import BuildTags.Proofs.List

namespace BuildTags

namespace Build

variable {host : Host} {build : Build} {text : Text} {members : List (Text × Json.Value)}

theorem exists_write (h : ∃ digits, Numeral.write build.number = .ok digits) :
    ∃ text, build.write = .ok text := by
  apply Json.IsWritable.object
  simp only [List.forall_mem_cons]
  exact ⟨Json.isWritable_text _, Json.isWritable_text _, Json.isWritable_text _,
    Json.isWritable_text _, Json.isWritable_text _, h, List.forall_mem_nil _⟩

theorem mem_of_wholeMember {name : Text} {n : Int} (h : wholeMember members name = .ok n) :
    (name, .whole n) ∈ members := by
  unfold wholeMember at h
  split at h
  · rename_i found hfound
    cases h
    exact mem_of_find?_key hfound
  · cases h

theorem exists_mem_of_ofJson {value : Json.Value} (h : ofJson value = .ok build) :
    ∃ members, value = .object members ∧
      (("buildNumber", .whole build.number) : Text × Json.Value) ∈ members := by
  unfold ofJson at h
  split at h
  · rename_i members
    obtain ⟨_, -, h⟩ := bind_eq_ok_iff.1 h
    obtain ⟨_, -, h⟩ := bind_eq_ok_iff.1 h
    obtain ⟨_, -, h⟩ := bind_eq_ok_iff.1 h
    obtain ⟨_, -, h⟩ := bind_eq_ok_iff.1 h
    obtain ⟨number, hnumber, h⟩ := bind_eq_ok_iff.1 h
    cases h
    exact ⟨members, rfl, mem_of_wholeMember hnumber⟩
  · cases h

theorem exists_write_number_of_read (h : read text host = .ok build) :
    ∃ digits, Numeral.write build.number = .ok digits := by
  unfold read at h
  split at h
  · cases h
  · cases h
  · cases h
  · rename_i value hvalue
    obtain ⟨members, rfl, hm⟩ := exists_mem_of_ofJson (mapError_eq_ok_iff.1 h)
    exact (Json.isWritable_of_read hvalue).of_mem hm

end Build

namespace CommandLine

open Run

variable {build : Build} {path : Disk.Path} {before after : Progress}

/-- What a saved build leaves: the text of the build in the file at the path. -/
theorem exists_place_of_saveBuild (h : (saveBuild build path).result before = (.ok (), after)) :
    ∃ text place, build.write = .ok text ∧ '\x00' ∉ path.toText ∧
      after.disk.place path = .ok place ∧ after.disk.bytes? place = some (Utf8.encode text) := by
  obtain ⟨_, made, -, h⟩ := result_bind_eq_ok_iff.1 h
  obtain ⟨text, told, htext, h⟩ := result_bind_eq_ok_iff.1 h
  obtain ⟨_, written, hwritten, hnoted⟩ := result_bind_eq_ok_iff.1 h
  obtain ⟨hw, -⟩ := Prod.mk.inj ((result_traced _ _).symm.trans htext)
  have hdisk : after.disk = written.disk := by
    obtain ⟨-, rfl⟩ := Prod.mk.inj ((result_traced _ _).symm.trans hnoted)
    rfl
  rw [result_changeOrLeave] at hwritten
  cases hput : told.disk.writeText path text with
  | error fault =>
    rw [hput] at hwritten
    cases hwritten
  | ok disk =>
    rw [hput] at hwritten
    cases hwritten
    obtain ⟨hnull, place, hplace, -, rfl⟩ := Disk.writeText_eq_ok_iff.1 hput
    rw [hdisk]
    refine ⟨text, place, mapError_eq_ok_iff.1 hw, hnull, ?_, ?_⟩
    · exact (Disk.extends_of_writeText hput).place hplace
    · rw [Disk.bytes?_withFile, if_pos rfl]

theorem buildAt_of_saveBuild (host : Host)
    (h : (saveBuild build path).result before = (.ok (), after)) :
    buildAt host after.disk path = .ok build := by
  obtain ⟨text, place, hw, hnull, hplace, hbytes⟩ := exists_place_of_saveBuild h
  exact buildAt_of_write hnull hplace hw hbytes

end CommandLine

namespace Build

/-- A build whose number has few enough digits is written in printable ASCII, whatever its texts hold,
and read back. A saved build is read from its file, and a build that was read from any text is read
from its own text again. -/
theorem round_trip (host : Host) :
    (∀ build : Build, (Nat.toDigits 10 build.number.natAbs).length ≤ Numeral.maxDigits →
      ∃ text, build.write = .ok text ∧ text.IsVisible ∧ read text host = .ok build) ∧
    (∀ build path before after,
      (CommandLine.saveBuild build path).result before = (.ok (), after) →
        CommandLine.buildAt host after.disk path = .ok build) ∧
    ∀ text build, read text host = .ok build →
      ∃ written, build.write = .ok written ∧ read written host = .ok build := by
  refine ⟨?_, ?_, ?_⟩
  · intro build hlength
    obtain ⟨text, hw⟩ := exists_write (Numeral.exists_write_of_length_le hlength)
    exact ⟨text, hw, isVisible_of_write hw, read_of_write host hw⟩
  · intro build path before after hsaved
    exact CommandLine.buildAt_of_saveBuild host hsaved
  · intro text build hread
    obtain ⟨written, hw⟩ := exists_write (exists_write_number_of_read hread)
    exact ⟨written, hw, read_of_write host hw⟩

/-- A build with a quote, a backslash, control characters and a character above the basic plane, and a
text that names a member twice. -/
theorem odd_build_round_trip : ∃ build : Build,
    build.name = "v1.0-\"a\\" ∧ build.message = "é\n\x00\x7f😀" ∧ build.number = -12 ∧
    (∃ text, build.write = .ok text ∧ text.IsVisible ∧ read text = .ok build) ∧
    (∃ after, (CommandLine.saveBuild build ⟨[], ["out", "build.json"]⟩).result ⟨{}, [], []⟩ =
        (.ok (), after) ∧
      CommandLine.buildAt {} after.disk ⟨[], ["out", "build.json"]⟩ = .ok build) ∧
    ∃ again, read ("\x7b\"name\":\"x\",\"commitSha\":\"\\u00e9\",\"message\":[7]," ++
          "\"buildVersion\":\"1\",\"buildVariant\":\"d\", \"buildNumber\":-0,\"name\":\"y\"\x7d\n") =
        .ok again ∧
      ∃ written, again.write = .ok written ∧ read written = .ok again := by
  let build : Build := ⟨"v1.0-\"a\\", "c1", "é\n\x00\x7f😀", "1.0", "de bug", -12⟩
  let path : Disk.Path := ⟨[], ["out", "build.json"]⟩
  obtain ⟨hwrite, hsave, hagain⟩ := round_trip {}
  have hlength : (Nat.toDigits 10 build.number.natAbs).length ≤ Numeral.maxDigits := by decide
  have hsaved : ((CommandLine.saveBuild build path).result ⟨{}, [], []⟩).1 = .ok () := by
    decide +kernel
  have hafter : (CommandLine.saveBuild build path).result ⟨{}, [], []⟩ =
      (.ok (), ((CommandLine.saveBuild build path).result ⟨{}, [], []⟩).2) := Prod.ext hsaved rfl
  have hread : read ("\x7b\"name\":\"x\",\"commitSha\":\"\\u00e9\",\"message\":[7]," ++
        "\"buildVersion\":\"1\",\"buildVariant\":\"d\", \"buildNumber\":-0,\"name\":\"y\"\x7d\n") =
      .ok ⟨"y", "é", [], "1", "d", 0⟩ := by decide +kernel
  exact ⟨build, rfl, rfl, rfl, hwrite build hlength, ⟨_, hafter, hsave _ _ _ _ hafter⟩,
    _, hread, hagain _ _ hread⟩

end Build

end BuildTags
