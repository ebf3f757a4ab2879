import BuildTags.Proofs.Disk.Place

namespace BuildTags.Disk

variable {disk disk' : Disk} {place other : Place} {bytes : List UInt8} {path : Path} {text : Text}

theorem find?_putBytes (place other : Place) (bytes : List UInt8)
    (files : List (Place × List UInt8)) :
    (putBytes place bytes files).find? (·.1 = other) =
      if other = place then some (place, bytes) else files.find? (·.1 = other) := by
  induction files with
  | nil => by_cases h : other = place <;> simp [putBytes, h, eq_comm]
  | cons file files ih =>
    obtain ⟨first, old⟩ := file
    rw [putBytes]
    by_cases hf : first = place
    · subst hf
      by_cases h : other = first
      · simp [h]
      · have h' : first ≠ other := fun he ↦ h he.symm
        simp [h, h']
    · rw [if_neg hf]
      by_cases hfo : first = other
      · subst hfo
        simp [hf]
      · rw [List.find?_cons_of_neg (by simpa using hfo), List.find?_cons_of_neg (by simpa using hfo),
          ih]

theorem bytes?_withFile (disk : Disk) (place other : Place) (bytes : List UInt8) :
    (disk.withFile place bytes).bytes? other =
      if other = place then some bytes else disk.bytes? other := by
  rw [bytes?, withFile, find?_putBytes]
  split_ifs <;> rfl

theorem kind?_eq_file_iff :
    disk.kind? place = some .file ↔ ∃ bytes, disk.bytes? place = some bytes := by
  rw [kind?]
  cases disk.bytes? place with
  | none => split_ifs <;> simp_all
  | some bytes => simp

theorem kind?_eq_folder_iff : disk.kind? place = some .folder ↔
    disk.bytes? place = none ∧ (place = [] ∨ place ∈ disk.folders) := by
  rw [kind?]
  cases disk.bytes? place with
  | none => simp [or_iff_not_imp_left]
  | some bytes => simp

theorem extends_withFile (h : disk.kind? place ≠ some .folder) (bytes : List UInt8) :
    Extends disk (disk.withFile place bytes) := by
  refine ⟨rfl, fun {other kind} hk ↦ ?_⟩
  by_cases he : other = place
  · subst he
    cases kind with
    | file => exact kind?_eq_file_iff.2 ⟨bytes, by rw [bytes?_withFile, if_pos rfl]⟩
    | folder => exact absurd hk h
  · have hb : (disk.withFile place bytes).bytes? other = disk.bytes? other := by
      rw [bytes?_withFile, if_neg he]
    cases kind with
    | file => rwa [kind?_eq_file_iff, hb, ← kind?_eq_file_iff]
    | folder => rwa [kind?_eq_folder_iff, hb, withFile, ← kind?_eq_folder_iff]

theorem bytes?_of_files_eq (h : disk'.files = disk.files) (place : Place) :
    disk'.bytes? place = disk.bytes? place := by
  rw [bytes?, h, bytes?]

theorem files_withFolder (disk : Disk) (place : Place) :
    (disk.withFolder place).files = disk.files := by
  rw [withFolder]
  split_ifs <;> rfl

theorem extends_withFolder (disk : Disk) (place : Place) :
    Extends disk (disk.withFolder place) := by
  have hb := bytes?_of_files_eq (files_withFolder disk place)
  have hf : ∀ other ∈ disk.folders, other ∈ (disk.withFolder place).folders := by
    intro other ho
    rw [withFolder]
    split_ifs
    · exact ho
    · exact List.mem_append_left _ ho
  refine ⟨?_, fun {other kind} hk ↦ ?_⟩
  · rw [withFolder]
    split_ifs <;> rfl
  · cases kind with
    | file => rwa [kind?_eq_file_iff, hb, ← kind?_eq_file_iff]
    | folder =>
      obtain ⟨hn, hp⟩ := kind?_eq_folder_iff.1 hk
      exact kind?_eq_folder_iff.2 ⟨(hb other).trans hn, hp.imp_right (hf other)⟩

/-- Whether two disks hold the same files, the second one perhaps more folders. -/
structure AddsFolders (disk disk' : Disk) : Prop where
  files : disk'.files = disk.files
  grows : Extends disk disk'

namespace AddsFolders

theorem refl (disk : Disk) : AddsFolders disk disk := ⟨rfl, .refl disk⟩

theorem trans {disk'' : Disk} (h : AddsFolders disk disk') (h' : AddsFolders disk' disk'') :
    AddsFolders disk disk'' :=
  ⟨h'.files.trans h.files, h.grows.trans h'.grows⟩

theorem makeFolder (h : disk.makeFolder path = .ok disk') : AddsFolders disk disk' := by
  obtain ⟨place, -, h⟩ := bind_eq_ok_iff.1 h
  split at h
  · cases h
  · obtain rfl := Except.ok.inj h
    exact ⟨files_withFolder disk place, extends_withFolder disk place⟩

theorem unlessFolder (disk : Disk) (path : Path) (refusal : Refusal) :
    AddsFolders disk (disk.unlessFolder path refusal).1 := by
  rw [Disk.unlessFolder]
  split_ifs <;> exact .refl disk

theorem makeFolders (disk : Disk) (root : Text) (names : List Text) :
    AddsFolders disk (disk.makeFolders root names).1 := by
  fun_induction Disk.makeFolders disk root names with
  | case1 names path made hm => exact makeFolder hm
  | case2 path hm => exact .refl disk
  | case3 names path hm hne hlt above fault ha ih => rwa [ha] at ih
  | case4 names path hm hne hlt above ha made hm' ih =>
    rw [ha] at ih
    exact ih.trans (makeFolder hm')
  | case5 names path hm hne hlt above ha hm' ih => rwa [ha] at ih
  | case6 names path hm hne hlt above ha refusal hr hm' ih =>
    rw [ha] at ih
    exact ih.trans (unlessFolder above path refusal)
  | case7 names path refusal hr hm => exact unlessFolder disk path refusal

theorem makeParent (disk : Disk) (path : Path) : AddsFolders disk (disk.makeParent path).1 := by
  rw [Disk.makeParent]
  split
  · exact .refl disk
  · exact makeFolders disk _ _

end AddsFolders

theorem checkPath_eq_ok_iff {path : Text} : checkPath path = .ok () ↔ '\x00' ∉ path := by
  rw [checkPath]
  split_ifs with h <;> simp [h]

theorem told_eq_ok_iff {α : Type} {path : Text} {answer : Except Refusal α} {a : α} :
    told path answer = .ok a ↔ answer = .ok a := by
  cases answer <;> simp [told]

theorem readText_eq_ok_iff : disk.readText path = .ok text ↔ '\x00' ∉ path.toText ∧
    ∃ place bytes found, disk.place path = .ok place ∧ disk.bytes? place = some bytes ∧
      Utf8.decode bytes = .ok found ∧ text = Text.uniformLines found := by
  constructor
  · intro h
    obtain ⟨_, hc, h⟩ := bind_eq_ok_iff.1 h
    obtain ⟨place, hp, h⟩ := bind_eq_ok_iff.1 h
    split at h
    · cases h
    · cases h
    · rename_i bytes hb _
      split at h
      · rename_i found hd
        exact ⟨checkPath_eq_ok_iff.1 hc, place, bytes, found, told_eq_ok_iff.1 hp, hb, hd,
          (Except.ok.inj h).symm⟩
      · cases h
  · rintro ⟨hc, place, bytes, found, hp, hb, hd, rfl⟩
    have hk : disk.kind? place = some .file := kind?_eq_file_iff.2 ⟨bytes, hb⟩
    refine bind_eq_ok_iff.2 ⟨(), checkPath_eq_ok_iff.2 hc, bind_eq_ok_iff.2
      ⟨place, told_eq_ok_iff.2 hp, ?_⟩⟩
    simp only [hk, hb, hd]
    rfl

theorem writeText_eq_ok_iff : disk.writeText path text = .ok disk' ↔ '\x00' ∉ path.toText ∧
    ∃ place, disk.place path = .ok place ∧ disk.kind? place ≠ some .folder ∧
      disk' = disk.withFile place (Utf8.encode text) := by
  constructor
  · intro h
    obtain ⟨_, hc, h⟩ := bind_eq_ok_iff.1 h
    obtain ⟨place, hp, h⟩ := bind_eq_ok_iff.1 h
    split at h
    · cases h
    · rename_i hk
      exact ⟨checkPath_eq_ok_iff.1 hc, place, told_eq_ok_iff.1 hp, hk, (Except.ok.inj h).symm⟩
  · rintro ⟨hc, place, hp, hk, rfl⟩
    refine bind_eq_ok_iff.2 ⟨(), checkPath_eq_ok_iff.2 hc, bind_eq_ok_iff.2
      ⟨place, told_eq_ok_iff.2 hp, ?_⟩⟩
    split
    · contradiction
    · rfl

theorem placeToAppend_eq_ok_iff {path : Text} : disk.placeToAppend path = .ok place ↔
    ∃ asWritten, written path = .ok asWritten ∧ asWritten.endsInSlash = false ∧
      disk.placeOf (disk.start asWritten) asWritten.names = .ok place ∧
      disk.kind? place ≠ some .folder := by
  refine bind_eq_ok_iff.trans (exists_congr fun asWritten ↦ and_congr_right fun _ ↦ ?_)
  cases asWritten.endsInSlash with
  | true => simp [bind_eq_ok_iff]
  | false =>
    simp only [Bool.false_eq_true, if_false, bind_eq_ok_iff, true_and]
    constructor
    · rintro ⟨found, hp, h⟩
      split_ifs at h with hk
      obtain rfl := Except.ok.inj h
      exact ⟨hp, hk⟩
    · rintro ⟨hp, hk⟩
      exact ⟨place, hp, if_neg hk⟩

theorem appendText_eq_ok_iff {path : Text} : disk.appendText path text = .ok disk' ↔
    '\x00' ∉ path ∧ ∃ place, disk.placeToAppend path = .ok place ∧
      disk' = disk.withFile place ((disk.bytes? place).getD [] ++ Utf8.encode text) := by
  constructor
  · intro h
    obtain ⟨_, hc, h⟩ := bind_eq_ok_iff.1 h
    obtain ⟨place, hp, h⟩ := bind_eq_ok_iff.1 h
    exact ⟨checkPath_eq_ok_iff.1 hc, place, told_eq_ok_iff.1 hp, (Except.ok.inj h).symm⟩
  · rintro ⟨hc, place, hp, rfl⟩
    exact bind_eq_ok_iff.2 ⟨(), checkPath_eq_ok_iff.2 hc, bind_eq_ok_iff.2
      ⟨place, told_eq_ok_iff.2 hp, rfl⟩⟩

/-- A file that has been read is read again as long as its own bytes stay. -/
theorem readText_of_extends (hr : disk.readText path = .ok text) (h : Extends disk disk')
    (hb : ∀ place, disk.target? path.toText = some place →
      disk'.bytes? place = disk.bytes? place) : disk'.readText path = .ok text := by
  obtain ⟨hc, place, bytes, found, hp, hf, hd, he⟩ := readText_eq_ok_iff.1 hr
  have hb' := (hb place (target?_of_place hp)).trans hf
  exact readText_eq_ok_iff.2 ⟨hc, place, bytes, found, h.place hp, hb', hd, he⟩

theorem extends_of_writeText (h : disk.writeText path text = .ok disk') : Extends disk disk' := by
  obtain ⟨-, place, -, hk, rfl⟩ := writeText_eq_ok_iff.1 h
  exact extends_withFile hk _

theorem extends_of_appendText {path : Text} (h : disk.appendText path text = .ok disk') :
    Extends disk disk' := by
  obtain ⟨-, place, hp, rfl⟩ := appendText_eq_ok_iff.1 h
  obtain ⟨-, -, -, -, hk⟩ := placeToAppend_eq_ok_iff.1 hp
  exact extends_withFile hk _

theorem exists_appendText_of_appendText {path : Text} (h : disk.appendText path text = .ok disk')
    (more : Text) : ∃ disk'', disk'.appendText path more = .ok disk'' := by
  have hgrows := extends_of_appendText h
  obtain ⟨hc, place, hp, rfl⟩ := appendText_eq_ok_iff.1 h
  obtain ⟨asWritten, hw, hslash, hp, -⟩ := placeToAppend_eq_ok_iff.1 hp
  have hk : (disk.withFile place ((disk.bytes? place).getD [] ++ Utf8.encode text)).kind? place =
      some .file := kind?_eq_file_iff.2 ⟨_, by rw [bytes?_withFile, if_pos rfl]⟩
  refine ⟨_, appendText_eq_ok_iff.2 ⟨hc, place, placeToAppend_eq_ok_iff.2
    ⟨asWritten, hw, hslash, hgrows.placeOf hp, ?_⟩, rfl⟩⟩
  rw [hk]
  simp

end BuildTags.Disk
