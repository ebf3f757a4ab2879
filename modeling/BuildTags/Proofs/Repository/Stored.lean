import BuildTags.Proofs.Pattern.Group
import BuildTags.Proofs.Repository.History
import BuildTags.Proofs.Tag.Order

namespace BuildTags.Repository

/-- A tag as a repository stores it. A lightweight one points to a commit, whose message is what its
contents are; an annotated one is an object with a message that points to a commit. -/
inductive StoredTag
  | lightweight (name commit contents : Text)
  | annotated (name object commit message : Text)

namespace StoredTag

def name : StoredTag → Text
  | .lightweight name _ _ | .annotated name _ _ _ => name

def texts : StoredTag → List Text
  | .lightweight name commit contents => [name, commit, contents]
  | .annotated name object commit message => [name, object, commit, message]

def shas : StoredTag → List Text
  | .lightweight _ commit _ => [commit]
  | .annotated _ object commit _ => [object, commit]

structure IsProper (stored : StoredTag) : Prop where
  texts : ∀ text ∈ stored.texts, Git.fieldMark ∉ text ∧ Git.recordMark ∉ text
  shas : ∀ sha ∈ stored.shas, sha ≠ []

def fields : StoredTag → List Text
  | .lightweight name commit contents => [Git.refStart ++ name, commit, [], contents]
  | .annotated name object commit message => [Git.refStart ++ name, object, commit, message]

def reference : StoredTag → Reference
  | .lightweight name commit _ => ⟨Service.refStart ++ name, commit, "commit"⟩
  | .annotated name object _ _ => ⟨Service.refStart ++ name, object, "tag"⟩

def tag (order : Nat) : StoredTag → Tag
  | .lightweight name commit _ => { name, sha := commit, order }
  | .annotated name _ commit message => { name, sha := commit, message := Text.trim message, order }

def shown : StoredTag → List Text
  | .lightweight name commit _ => [name, commit]
  | .annotated name _ commit message => [name, commit, Text.trim message]

def uniform : StoredTag → StoredTag
  | .lightweight name commit contents =>
    .lightweight (Text.uniformLines name) (Text.uniformLines commit) (Text.uniformLines contents)
  | .annotated name object commit message =>
    .annotated (Text.uniformLines name) (Text.uniformLines object) (Text.uniformLines commit)
      (Text.uniformLines message)

/-- Whether the service answers with the object of an annotated tag. An empty message may be left
out. -/
def IsAnswered (answers : ServiceAnswers) : StoredTag → Prop
  | .lightweight _ _ _ => True
  | .annotated _ object commit message =>
    ∃ told, answers.annotatedTag object = .ok ⟨commit, told⟩ ∧ told.getD [] = message

variable {stored : StoredTag}

theorem isRow_fields (h : stored.IsProper) : Git.IsRow stored.fields := by
  have htexts := h.texts
  cases stored with
  | lightweight name commit contents =>
    apply Git.IsRow.reference
    simp only [texts, List.forall_mem_cons] at htexts ⊢
    exact ⟨htexts.1, htexts.2.1, ⟨List.not_mem_nil, List.not_mem_nil⟩, htexts.2.2⟩
  | annotated name object commit message => exact .reference htexts

theorem tagOf_fields (h : stored.IsProper) (order : Nat) :
    Git.tagOf order stored.fields = stored.tag order := by
  cases stored with
  | lightweight name commit contents =>
    rw [fields, Git.tagOf_fields, if_pos rfl, if_pos rfl]
    rfl
  | annotated name object commit message =>
    have hne : commit ≠ [] := h.shas commit (by simp [shas])
    rw [fields, Git.tagOf_fields, if_neg hne, if_neg hne]
    rfl

theorem IsProper.uniform (h : stored.IsProper) : stored.uniform.IsProper := by
  have htexts : stored.uniform.texts = stored.texts.map Text.uniformLines := by
    cases stored <;> rfl
  have hshas : stored.uniform.shas = stored.shas.map Text.uniformLines := by
    cases stored <;> rfl
  constructor
  · rw [htexts, List.forall_mem_map]
    exact fun text ht ↦ Git.marks_uniformLines (h.texts text ht)
  · rw [hshas, List.forall_mem_map]
    exact fun sha hs ↦ Text.uniformLines_ne_nil (h.shas sha hs)

theorem uniformLines_recordOf_fields (stored : StoredTag) :
    Text.uniformLines (Git.recordOf stored.fields) = Git.recordOf stored.uniform.fields := by
  rw [Git.uniformLines_recordOf]
  cases stored with
  | lightweight name commit contents =>
    simp only [fields, uniform, List.map_cons, List.map_nil, Git.uniformLines_refStart_append]
    rfl
  | annotated name object commit message =>
    simp only [fields, uniform, List.map_cons, List.map_nil, Git.uniformLines_refStart_append]

theorem tag_uniform (order : Nat) (stored : StoredTag) :
    stored.uniform.tag order = (stored.tag order).uniform := by
  cases stored with
  | lightweight name commit contents => rfl
  | annotated name object commit message =>
    rw [uniform, tag, Text.trim_uniformLines]
    rfl

theorem tagsOf_printed {listed : List StoredTag} (h : ∀ stored ∈ listed, stored.IsProper) :
    Git.tagsOf (Text.uniformLines
        (Git.printed (listed.map fun stored ↦ Git.recordOf stored.fields))) =
      (listed.mapIdx tag).map Tag.uniform := by
  have hrecords : (listed.map fun stored ↦ Git.recordOf stored.fields).map Text.uniformLines =
      listed.map fun stored ↦ Git.recordOf stored.uniform.fields := by
    rw [List.map_map]
    exact List.map_congr_left fun stored _ ↦ stored.uniformLines_recordOf_fields
  rw [Git.uniformLines_printed, hrecords, map_mapIdx]
  apply Git.tagsOf_rows
  · intro stored hs
    exact isRow_fields (h stored hs).uniform
  · intro stored hs order
    rw [tagOf_fields (h stored hs).uniform order, tag_uniform]

theorem outcome_target {answers : ServiceAnswers} {failure : Text → Failure}
    (h : stored.IsAnswered answers) (order : Nat) :
    (Service.target answers failure stored.reference).outcome =
      .ok ((stored.tag order).sha, (stored.tag order).message) := by
  cases stored with
  | lightweight name commit contents => rfl
  | annotated name object commit message =>
    obtain ⟨told, h, rfl⟩ := h
    have hkind : (annotated name object commit (told.getD [])).reference.kind = "tag" := rfl
    have hsha : (annotated name object commit (told.getD [])).reference.sha = object := rfl
    rw [Service.target, if_pos hkind, hsha, h]
    rfl

theorem outcome_tagsOf {answers : ServiceAnswers} (failure : Text → Failure)
    {listed : List StoredTag} (h : ∀ stored ∈ listed, stored.IsAnswered answers) (order : Nat) :
    (Service.tagsOf answers failure order (listed.map reference)).outcome =
      .ok (listed.mapIdx fun i stored ↦ stored.tag (order + i)) := by
  induction listed generalizing order with
  | nil => rfl
  | cons stored listed ih =>
    obtain ⟨hstored, hlisted⟩ := List.forall_mem_cons.1 h
    have hname : Text.without Service.refStart stored.reference.name = (stored.tag order).name := by
      cases stored <;>
        simp only [reference, Text.without, Text.after?_append, Option.getD_some] <;> rfl
    have htag : stored.tag order = ⟨(stored.tag order).name, (stored.tag order).sha,
        (stored.tag order).message, order⟩ := by
      cases stored <;> rfl
    rw [List.map_cons, Service.tagsOf, Traced.outcome_bind, outcome_target hstored order, ok_bind]
    simp only [Traced.outcome_bind, ih hlisted (order + 1), ok_bind]
    rw [hname, ← htag, List.mapIdx_cons]
    have hshift : (fun i (stored : StoredTag) ↦ stored.tag (order + 1 + i)) =
        fun i stored ↦ stored.tag (order + (i + 1)) := by
      funext i stored
      rw [Nat.add_assoc, Nat.add_comm 1 i]
    rw [hshift]
    rfl

theorem map_unplaced_mapIdx (listed : List StoredTag) :
    (listed.mapIdx tag).map Tag.unplaced = listed.map (tag 0) := by
  apply map_mapIdx_of_const
  intro order stored
  cases stored <;> rfl

theorem name_tag (order : Nat) (stored : StoredTag) : (stored.tag order).name = stored.name := by
  cases stored <;> rfl

theorem map_name_mapIdx (listed : List StoredTag) :
    (listed.mapIdx tag).map (·.name) = listed.map name := map_mapIdx_of_const name_tag listed

theorem forall_mem_mapIdx_iff {P : Tag → Prop} {Q : StoredTag → Prop}
    (h : ∀ order stored, P (tag order stored) ↔ Q stored) {listed : List StoredTag} :
    (∀ tag' ∈ listed.mapIdx tag, P tag') ↔ ∀ stored ∈ listed, Q stored := by
  constructor
  · intro hP stored hs
    obtain ⟨i, hi, rfl⟩ := List.mem_iff_getElem.1 hs
    exact (h i _).1 (hP _ (List.mem_mapIdx.2 ⟨i, hi, rfl⟩))
  · intro hQ tag' ht
    obtain ⟨i, hi, rfl⟩ := List.mem_mapIdx.1 ht
    exact (h i _).2 (hQ _ (List.getElem_mem hi))

theorem forall_name_mapIdx_iff (P : Text → Prop) {listed : List StoredTag} :
    (∀ tag' ∈ listed.mapIdx tag, P tag'.name) ↔ ∀ stored ∈ listed, P stored.name :=
  forall_mem_mapIdx_iff fun order stored ↦ by rw [name_tag]

theorem uniform_tag_eq_self_iff (order : Nat) (stored : StoredTag) :
    (stored.tag order).uniform = stored.tag order ↔ ∀ text ∈ stored.shown, '\r' ∉ text := by
  rw [Tag.uniform_eq_self_iff]
  cases stored with
  | lightweight name commit contents => simp [tag, shown]
  | annotated name object commit message => simp [tag, shown]

theorem map_uniform_eq_self_iff {listed : List StoredTag} :
    (listed.mapIdx tag).map Tag.uniform = listed.mapIdx tag ↔
      ∀ stored ∈ listed, ∀ text ∈ stored.shown, '\r' ∉ text := by
  rw [map_list_eq_self_iff]
  exact forall_mem_mapIdx_iff uniform_tag_eq_self_iff

end StoredTag

def GitAnswers.Lists (answers : GitAnswers) (listed : List StoredTag) : Prop :=
  ∃ errors, answers.tags =
    .printed 0 (Git.printed (listed.map fun stored ↦ Git.recordOf stored.fields)) errors

structure ServiceAnswers.Lists (answers : ServiceAnswers) (listed : List StoredTag) : Prop where
  references : answers.references = .ok (listed.map StoredTag.reference)
  objects : ∀ stored ∈ listed, stored.IsAnswered answers

theorem outcome_allTags_gitSource {answers : GitAnswers} {listed : List StoredTag}
    (hl : answers.Lists listed) (h : ∀ stored ∈ listed, stored.IsProper) (folder : Text) :
    (gitSource folder answers).allTags.outcome =
      .ok ((listed.mapIdx StoredTag.tag).map Tag.uniform) := by
  obtain ⟨errors, ht⟩ := hl
  simp only [gitSource, Traced.outcome_bind, ht, Git.outcome_run_printed, ok_bind,
    StoredTag.tagsOf_printed h]
  rfl

theorem outcome_allTags_service {answers : ServiceAnswers} {listed : List StoredTag}
    (hl : answers.Lists listed) (repository : Text) :
    (Service.allTags repository answers).outcome = .ok (listed.mapIdx StoredTag.tag) := by
  have htags := StoredTag.outcome_tagsOf
    (fun reason ↦ .repository (.tagsUnlisted repository reason)) hl.objects 0
  simp only [Nat.zero_add] at htags
  rw [Service.allTags, hl.references, Traced.outcome_bind]
  show (Service.tagsOf answers _ 0 _ >>= _).outcome = _
  rw [Traced.outcome_bind, htags]
  rfl

theorem eq_of_outcome_serviceSource {token repository : Text} {answers : ServiceAnswers}
    {service : Source} (h : (serviceSource token repository answers).outcome = .ok service) :
    service = ⟨Service.allTags repository answers, Service.commitsBetween answers⟩ := by
  rw [serviceSource] at h
  split at h
  · cases h
  · split at h
    · cases h
    · cases hr : answers.repository with
      | error refusal =>
        rw [hr] at h
        cases h
      | ok answer =>
        rw [hr] at h
        cases h
        rfl

end BuildTags.Repository
