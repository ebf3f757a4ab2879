import BuildTags.Proofs.Changelog.Entry
import BuildTags.Proofs.Repository.Record

namespace BuildTags

structure Commit.IsProper (commit : Commit) : Prop where
  sha : Repository.Git.fieldMark ∉ commit.sha ∧ Repository.Git.recordMark ∉ commit.sha
  message : Repository.Git.fieldMark ∉ commit.message ∧ Repository.Git.recordMark ∉ commit.message

/-- The tag with a line feed for every line end in its texts. -/
def Tag.uniform (tag : Tag) : Tag :=
  { tag with
    name := Text.uniformLines tag.name
    sha := Text.uniformLines tag.sha
    message := Text.uniformLines tag.message }

theorem Tag.uniform_eq_self_iff {tag : Tag} :
    tag.uniform = tag ↔ '\r' ∉ tag.name ∧ '\r' ∉ tag.sha ∧ '\r' ∉ tag.message := by
  obtain ⟨name, sha, message, order⟩ := tag
  simp only [uniform, Tag.mk.injEq, Text.uniformLines_eq_self_iff, and_true]

def Commit.uniform (commit : Commit) : Commit where
  sha := Text.uniformLines commit.sha
  message := Text.uniformLines commit.message

theorem Commit.IsProper.uniform {commit : Commit} (h : commit.IsProper) :
    commit.uniform.IsProper :=
  ⟨Repository.Git.marks_uniformLines h.sha, Repository.Git.marks_uniformLines h.message⟩

namespace Repository

variable {commit : Commit} {commits : List Commit}

namespace Git

def commitRecord (commit : Commit) : Text := recordOf [commit.sha, commit.message]

theorem commitRecord_eq (commit : Commit) :
    commitRecord commit = commit.sha ++ fieldMark :: commit.message := by
  rw [commitRecord, recordOf, List.intercalate_cons_cons, List.intercalate_singleton,
    List.append_assoc, List.singleton_append]

theorem uniformLines_commitRecord (commit : Commit) :
    Text.uniformLines (commitRecord commit) = commitRecord commit.uniform :=
  uniformLines_recordOf _

theorem message_commitOf_commitRecord (h : commit.IsProper) :
    (commitOf (((commitRecord commit).dropWhile (· = '\n')).splitOn fieldMark)).message =
      Text.trim commit.message := by
  have hdrop : (commitRecord commit).dropWhile (· = '\n') =
      commit.sha.dropWhile (· = '\n') ++ fieldMark :: commit.message := by
    have hmark : (fieldMark :: commit.message).dropWhile (· = '\n') = fieldMark :: commit.message :=
      List.dropWhile_cons_of_neg (by decide)
    rw [commitRecord_eq, List.dropWhile_append, hmark]
    cases hs : (commit.sha.dropWhile (· = '\n')).isEmpty with
    | true =>
      rw [if_pos rfl, List.isEmpty_iff.1 hs]
      rfl
    | false => rw [if_neg (by simp)]
  have hsha : fieldMark ∉ commit.sha.dropWhile (· = '\n') := by
    intro hm
    exact h.sha.1 (List.dropWhile_subset _ hm)
  rw [hdrop, List.splitOn_append_cons_self_of_not_mem hsha, List.splitOn_eq_singleton h.message.1]
  rfl

theorem blank_message_of_blank_commitRecord (h : Text.blank (commitRecord commit) = true) :
    Text.blank commit.message = true := by
  rw [commitRecord_eq, Text.blank_append_iff, Text.blank_cons_iff] at h
  exact h.2.2

/-- The messages that are read are the trimmed ones, and nothing but a blank one is left out. -/
theorem map_message_commitsOf_printed (h : ∀ commit ∈ commits, commit.IsProper) :
    (commitsOf (printed (commits.map commitRecord))).map (·.message) =
      (commits.filter fun commit ↦ !Text.blank (commitRecord commit)).map fun commit ↦
        Text.trim commit.message := by
  have hmarks : ∀ record ∈ commits.map commitRecord, recordMark ∉ record := by
    intro record hm
    obtain ⟨commit, hc, rfl⟩ := List.mem_map.1 hm
    apply notMem_recordOf (by decide)
    intro field hfield
    rcases List.mem_cons.1 hfield with rfl | hfield
    · exact (h commit hc).sha.2
    · exact List.mem_singleton.1 hfield ▸ (h commit hc).message.2
  rw [commitsOf, splitRecords_printed hmarks, List.filter_map, List.map_map, List.map_map,
    List.map_map]
  apply List.map_congr_left
  intro commit hm
  exact message_commitOf_commitRecord (h commit (List.mem_of_mem_filter hm))

end Git

theorem flatMap_filter_of_eq_nil {α β : Type} {keep : α → Bool} {f : α → List β} {items : List α}
    (h : ∀ item ∈ items, keep item = false → f item = []) :
    (items.filter keep).flatMap f = items.flatMap f := by
  induction items with
  | nil => rfl
  | cons item items ih =>
    obtain ⟨hitem, hitems⟩ := List.forall_mem_cons.1 h
    cases hk : keep item with
    | true =>
      rw [List.filter_cons_of_pos hk, List.flatMap_cons, List.flatMap_cons, ih hitems]
    | false =>
      rw [List.filter_cons_of_neg (by simp [hk]), List.flatMap_cons, hitem hk, ih hitems,
        List.nil_append]

theorem entries_commitsOf_printed (h : ∀ commit ∈ commits, commit.IsProper) (key : Option Text) :
    Changelog.entries key
      ((Git.commitsOf (Git.printed (commits.map Git.commitRecord))).map (·.message)) =
      Changelog.entries key ((commits.map (·.message)).map Text.trim) := by
  rw [Git.map_message_commitsOf_printed h, Changelog.entries, Changelog.entries, ← List.map_reverse,
    List.flatMap_map, List.map_map, ← List.map_reverse, List.flatMap_map, ← List.filter_reverse]
  apply flatMap_filter_of_eq_nil
  intro commit _ hk
  have hblank := Git.blank_message_of_blank_commitRecord (by simpa using hk)
  rw [Text.trim_of_blank hblank]
  exact Changelog.entriesOf_of_blank key rfl

end Repository

end BuildTags
