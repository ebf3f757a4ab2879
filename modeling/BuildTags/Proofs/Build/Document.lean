import BuildTags.Build.Document
import BuildTags.Proofs.Failure
import BuildTags.Proofs.Json.Object

namespace BuildTags.Build

variable {build : Build} {written : Text}

theorem toJson_eq_object (build : Build) : ∃ members, build.toJson = .object members ∧
    members ≠ [] ∧ (members.map (·.1)).Nodup ∧ ∀ member ∈ members, Json.IsScalar member.2 := by
  refine ⟨_, rfl, List.cons_ne_nil _ _, ?_, ?_⟩
  · simp only [List.map_cons, List.map_nil]
    decide
  · simp only [List.forall_mem_cons]
    exact ⟨.text _, .text _, .text _, .text _, .text _, .whole _, List.forall_mem_nil _⟩

theorem isVisible_of_write (hw : build.write = .ok written) : written.IsVisible := by
  obtain ⟨members, he, -, -, hs⟩ := toJson_eq_object build
  rw [write, he] at hw
  exact Json.isVisible_written_object hs hw

theorem read_of_write (host : Host) (hw : build.write = .ok written) :
    read written host = .ok build := by
  obtain ⟨members, he, hne, hnames, hs⟩ := toJson_eq_object build
  have hflat : Json.read (some Numeral.maxDigits) written = .ok (.object members) := by
    rw [write, he] at hw
    exact Json.read_written_object hne hs hnames hw
  have hread : Json.read (some Numeral.maxDigits) written host.deepDocument = .ok build.toJson := by
    rw [he]
    exact Json.read_eq_ok_iff.2
      ⟨host.flat_document written members hflat hs, (Json.read_eq_ok_iff.1 hflat).2⟩
  rw [read, hread]
  rfl

variable {members : List (Text × Json.Value)} {name : Text} {fault : Fault}

theorem eq_missing_of_textMember (h : textMember members name = .error fault) :
    fault = .missing name := by
  unfold textMember at h
  split at h
  · cases h
  · exact (Except.error.inj h).symm

theorem eq_missing_of_wholeMember (h : wholeMember members name = .error fault) :
    fault = .missing name := by
  unfold wholeMember at h
  split at h
  · cases h
  · exact (Except.error.inj h).symm

theorem eq_of_ofJson_error {value : Json.Value} (h : ofJson value = .error fault) :
    fault = .notAnObject ∨ ∃ name, fault = .missing name := by
  cases value with
  | object members =>
    rw [ofJson] at h
    refine .inr ?_
    rcases bind_eq_error_iff.1 h with h | ⟨_, -, h⟩
    · exact ⟨_, eq_missing_of_textMember h⟩
    rcases bind_eq_error_iff.1 h with h | ⟨_, -, h⟩
    · exact ⟨_, eq_missing_of_textMember h⟩
    rcases bind_eq_error_iff.1 h with h | ⟨_, -, h⟩
    · exact ⟨_, eq_missing_of_textMember h⟩
    rcases bind_eq_error_iff.1 h with h | ⟨_, -, h⟩
    · exact ⟨_, eq_missing_of_textMember h⟩
    rcases bind_eq_error_iff.1 h with h | ⟨_, -, h⟩
    · exact ⟨_, eq_missing_of_wholeMember h⟩
    · cases h
  | _ => exact .inl (Except.error.inj h).symm

theorem isFault_read (text : Text) (host : Host) :
    FailsOnly (fun failure ↦ failure.isReported = true ∨
      ∃ bound, failure = .build (.beyond bound) ∧
        Json.read (some Numeral.maxDigits) text host.deepDocument = .error (.beyond bound))
      (read text host) := by
  rw [read]
  split
  · exact .error (.inl rfl)
  · rename_i bound hbound
    exact .error (.inr ⟨bound, rfl, hbound⟩)
  · exact .error (.inl rfl)
  · refine .mapError_of fun fault hfault ↦ .inl ?_
    rcases eq_of_ofJson_error hfault with rfl | ⟨name, rfl⟩ <;> rfl

theorem exists_write_number_of_write (hw : build.write = .ok written) :
    ∃ digits, Numeral.write build.number = .ok digits := by
  obtain ⟨pieces, hm, -⟩ := Json.write_object_eq_ok_iff.1 hw
  have hnumber := Json.exists_write_of_writeMembers hm ("buildNumber", .whole build.number) (by simp)
  rwa [Json.write] at hnumber

end BuildTags.Build
