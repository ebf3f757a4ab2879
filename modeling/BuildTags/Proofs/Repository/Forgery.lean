import BuildTags.Proofs.Repository.Listing
import BuildTags.Proofs.Tag.Order

namespace BuildTags

/-- A tag as its name and its commit: without its message and its place in the listing. -/
def Tag.bare (tag : Tag) : Tag := { tag with message := [], order := 0 }

namespace Repository

namespace ListedTag

def bare (listed : ListedTag) : Tag := (listed.tag 0).bare

def IsNamed (listed : ListedTag) : Prop :=
  ∀ text ∈ [listed.name, listed.object, listed.peeled],
    Git.fieldMark ∉ text ∧ Git.recordMark ∉ text

/-- Whether the contents go on after a record mark, and not with white space alone. -/
def Forges (listed : ListedTag) : Prop :=
  ∃ before after, listed.contents = before ++ Git.recordMark :: after ∧ Text.blank after = false

/-- The contents as far as they belong to the record of the tag. -/
def own (listed : ListedTag) : Text := listed.contents.takeWhile (· ≠ Git.recordMark)

def rest (listed : ListedTag) : Text := listed.contents.dropWhile (· ≠ Git.recordMark)

theorem contents_eq (listed : ListedTag) : listed.contents = listed.own ++ listed.rest :=
  List.takeWhile_append_dropWhile.symm

theorem rest_eq_nil_or (listed : ListedTag) :
    listed.rest = [] ∨ ∃ after, listed.rest = Git.recordMark :: after := by
  cases hr : listed.rest with
  | nil => exact .inl rfl
  | cons c after =>
    have hhead := List.head?_dropWhile_not (· ≠ Git.recordMark) listed.contents
    rw [← rest, hr] at hhead
    have hc : c = Git.recordMark := by simpa using hhead
    exact .inr ⟨after, by rw [hc]⟩

theorem forges_iff {listed : ListedTag} : listed.Forges ↔ Text.blank listed.rest = false := by
  have hmark (after : Text) : Text.blank (Git.recordMark :: after) = Text.blank after := by
    rw [Text.blank, List.all_cons, show Text.isBlank Git.recordMark = true by decide, Bool.true_and,
      Text.blank]
  constructor
  · rintro ⟨before, after, hc, hblank⟩
    rw [rest, hc, List.dropWhile_append]
    split
    · rw [List.dropWhile_cons_of_neg (by simp), hmark, hblank]
    · rw [Text.blank, List.all_append, ← Text.blank, ← Text.blank, hmark, hblank, Bool.and_false]
  · intro hblank
    obtain hr | ⟨after, hr⟩ := listed.rest_eq_nil_or
    · rw [hr] at hblank
      cases hblank
    · have hcontents := listed.contents_eq
      rw [hr] at hcontents hblank
      exact ⟨listed.own, after, hcontents, hmark after ▸ hblank⟩

theorem rest_uniform (listed : ListedTag) :
    listed.uniform.rest = Text.uniformLines listed.rest := by
  have hown : Git.recordMark ∉ listed.own := by
    intro hm
    simpa using List.mem_takeWhile_imp hm
  have hkept : ∀ c ∈ Text.uniformLines listed.own, decide (c ≠ Git.recordMark) = true := by
    intro c hc
    rw [decide_eq_true_iff]
    rintro rfl
    exact Text.notMem_uniformLines (by decide) hown hc
  have hcontents : listed.uniform.contents = Text.uniformLines (listed.own ++ listed.rest) := by
    rw [← listed.contents_eq]
    rfl
  rw [rest, hcontents]
  obtain hr | ⟨after, hr⟩ := listed.rest_eq_nil_or
  · rw [hr, List.append_nil, List.dropWhile_eq_nil_iff.2 hkept]
    rfl
  · rw [hr, Text.uniformLines_append_cons (by decide) (by decide),
      List.dropWhile_append_of_pos hkept, List.dropWhile_cons_of_neg (by simp),
      Text.uniformLines_cons (by decide)]

theorem forges_uniform_iff {listed : ListedTag} : listed.uniform.Forges ↔ listed.Forges := by
  rw [forges_iff, forges_iff, rest_uniform, Text.blank_uniformLines]

theorem IsNamed.uniform {listed : ListedTag} (h : listed.IsNamed) : listed.uniform.IsNamed := by
  have htexts : [listed.uniform.name, listed.uniform.object, listed.uniform.peeled] =
      [listed.name, listed.object, listed.peeled].map Text.uniformLines := rfl
  rw [IsNamed, htexts, List.forall_mem_map]
  exact fun text ht ↦ Git.marks_uniformLines (h text ht)

theorem bare_uniform (listed : ListedTag) : listed.uniform.bare = listed.bare.uniform := by
  rw [bare, tag_uniform]
  rfl

end ListedTag

namespace Git

def bareOf (fields : List Text) : Tag := (tagOf 0 fields).bare

theorem bare_tagOf (order : Nat) (fields : List Text) : (tagOf order fields).bare = bareOf fields :=
  rfl

theorem bareOf_row (listed : ListedTag) (rest : List Text) :
    bareOf ((refStart ++ listed.name) :: listed.object :: listed.peeled :: rest) = listed.bare :=
  rfl

variable {text : Text} {listed : ListedTag}

theorem splitRecords_eq_nil_iff : splitRecords text = [] ↔ Text.blank text = true := by
  rw [splitRecords, List.map_eq_nil_iff, List.filter_eq_nil_iff,
    Text.blank_iff_splitOn (show Text.isBlank recordMark = true by decide)]
  simp only [Bool.not_eq_true', Bool.not_eq_false]

theorem splitRecords_tagLines (listed : List ListedTag) :
    splitRecords (listed.flatMap tagLine) =
      listed.flatMap fun tag ↦ splitRecords (recordOf tag.fields) := by
  induction listed with
  | nil => rfl
  | cons tag listed ih =>
    rw [List.flatMap_cons, List.flatMap_cons, tagLine_eq, List.append_assoc]
    show splitRecords (recordOf tag.fields ++ recordMark :: '\n' :: listed.flatMap tagLine) = _
    rw [splitRecords_append_mark, splitRecords_feed_cons, ih]

theorem splitRecords_recordOf {row : List Text} (h : IsRow row) :
    splitRecords (recordOf row) = [row] := by
  rw [splitRecords_of_notMem h.recordMark_notMem, List.filter_singleton, h.blank_recordOf]
  exact congrArg ([·]) h.splitOn_recordOf

theorem isRow_own (h : listed.IsNamed) :
    IsRow ((refStart ++ listed.name) :: listed.object :: listed.peeled ::
      listed.own.splitOn fieldMark) := by
  apply IsRow.reference
  intro text ht
  simp only [ListedTag.IsNamed, List.forall_mem_cons] at h
  obtain ⟨hname, hobject, hpeeled, -⟩ := h
  simp only [List.mem_cons] at ht
  rcases ht with rfl | rfl | rfl | ht
  · exact hname
  · exact hobject
  · exact hpeeled
  · refine ⟨Text.notMem_of_mem_splitOn ht, fun hm ↦ ?_⟩
    have hown := (Text.infix_of_mem_splitOn ht).subset hm
    simpa using List.mem_takeWhile_imp hown

theorem recordOf_fields_eq (listed : ListedTag) :
    recordOf listed.fields = recordOf ((refStart ++ listed.name) :: listed.object ::
      listed.peeled :: listed.own.splitOn fieldMark) ++ listed.rest := by
  obtain ⟨first, rest, hs⟩ := List.exists_cons_of_ne_nil (List.splitOn_ne_nil fieldMark listed.own)
  have hown : [fieldMark].intercalate (first :: rest) = listed.own := by
    rw [← hs, List.intercalate_splitOn]
  rw [hs, ListedTag.fields, recordOf, recordOf]
  simp only [List.intercalate_cons_cons, List.intercalate_singleton, hown, List.append_assoc]
  rw [← listed.contents_eq]

/-- What is printed of a tag is its own record and those that stand in the rest of its contents. -/
theorem splitRecords_recordOf_fields (h : listed.IsNamed) :
    splitRecords (recordOf listed.fields) =
      ((refStart ++ listed.name) :: listed.object :: listed.peeled :: listed.own.splitOn fieldMark) ::
        splitRecords listed.rest := by
  have hrow := splitRecords_recordOf (isRow_own h)
  rw [recordOf_fields_eq]
  obtain hr | ⟨after, hr⟩ := listed.rest_eq_nil_or
  · rw [hr, List.append_nil, hrow]
    rfl
  · have hafter : splitRecords (recordMark :: after) = splitRecords after :=
      splitRecords_append_mark [] after
    rw [hr, splitRecords_append_mark, hrow, hafter, List.singleton_append]

theorem map_bare_tagsOf {listed : List ListedTag} (h : ∀ tag ∈ listed, tag.IsNamed) :
    (tagsOf (listed.flatMap tagLine)).map Tag.bare =
      listed.flatMap fun tag ↦ tag.bare :: (splitRecords tag.rest).map bareOf := by
  rw [tagsOf, map_mapIdx_of_const bare_tagOf, splitRecords_tagLines, List.map_flatMap]
  apply List.flatMap_congr
  intro tag ht
  rw [splitRecords_recordOf_fields (h tag ht), List.map_cons, bareOf_row]

theorem bare_tagsOf_tagLines {listed : List ListedTag} (h : ∀ tag ∈ listed, tag.IsNamed) :
    (listed.map ListedTag.bare).Sublist ((tagsOf (listed.flatMap tagLine)).map Tag.bare) ∧
    ((tagsOf (listed.flatMap tagLine)).map Tag.bare = listed.map ListedTag.bare ↔
      ∀ tag ∈ listed, ¬tag.Forges) := by
  have hread := map_bare_tagsOf h
  have hsub (tag : ListedTag) (_ : tag ∈ listed) :
      [tag.bare].Sublist (tag.bare :: (splitRecords tag.rest).map bareOf) :=
    List.singleton_sublist.2 List.mem_cons_self
  have hkept : listed.map ListedTag.bare = listed.flatMap ([·.bare]) := List.map_eq_flatMap
  constructor
  · rw [hread, hkept]
    exact List.Sublist.flatMap_right listed hsub
  · rw [hread, hkept, eq_comm, flatMap_eq_iff_of_sublist hsub]
    refine forall₂_congr fun tag _ ↦ ?_
    rw [ListedTag.forges_iff, Bool.not_eq_false, ← splitRecords_eq_nil_iff, eq_comm,
      List.cons_eq_cons, and_iff_right rfl, List.map_eq_nil_iff]

theorem uniformLines_flatMap_tagLine (listed : List ListedTag) :
    Text.uniformLines (listed.flatMap tagLine) =
      (listed.map ListedTag.uniform).flatMap tagLine := by
  rw [uniformLines_tagLines, printed, List.flatMap_map, List.flatMap_map]
  exact List.flatMap_congr fun tag _ ↦ (tagLine_eq tag.uniform).symm

theorem exists_handedOver {listed : List ListedTag} {ending : Ending} {errors : Text}
    (h : ∀ tag ∈ listed, tag.IsNamed)
    (htags : ending = .exited 0 (listed.flatMap tagLine) errors ∨
      ending = .printed 0 (listed.flatMap tagLine) errors ∧
        ∀ tag ∈ listed, tag.bare.uniform = tag.bare) :
    ∃ (told : List ListedTag) (errors' : Text), ending.handedOver = .ok (0, told.flatMap tagLine, errors') ∧
      (∀ tag ∈ told, tag.IsNamed) ∧ told.map ListedTag.bare = listed.map ListedTag.bare ∧
      ((∀ tag ∈ told, ¬tag.Forges) ↔ ∀ tag ∈ listed, ¬tag.Forges) := by
  rcases htags with rfl | ⟨rfl, hbare⟩
  · exact ⟨listed, errors, rfl, h, rfl, Iff.rfl⟩
  · refine ⟨listed.map ListedTag.uniform, Text.uniformLines errors, ?_, ?_, ?_, ?_⟩
    · rw [← uniformLines_flatMap_tagLine]
      rfl
    · exact List.forall_mem_map.2 fun tag ht ↦ (h tag ht).uniform
    · rw [List.map_map]
      refine List.map_congr_left fun tag ht ↦ ?_
      rw [Function.comp_apply, tag.bare_uniform, hbare tag ht]
    · rw [List.forall_mem_map]
      exact forall₂_congr fun tag _ ↦ not_congr ListedTag.forges_uniform_iff

end Git

/-- The tags of a listing keep their names, their commits and their order whatever their contents
are, where no name and no commit holds a carriage return that is read as a line feed. More tags than
these are read exactly if the contents of one go on after a record mark; else the winner does not
depend on the contents. -/
theorem names_and_commits_kept_iff (folder : Text) (answers : GitAnswers) (listed : List ListedTag)
    (errors : Text) (h : ∀ tag ∈ listed, tag.IsNamed)
    (htags : answers.tags = .exited 0 (listed.flatMap Git.tagLine) errors ∨
      answers.tags = .printed 0 (listed.flatMap Git.tagLine) errors ∧
        ∀ tag ∈ listed, tag.bare.uniform = tag.bare) :
    ∃ tags, (gitSource folder answers).allTags.outcome = .ok tags ∧
      (listed.map ListedTag.bare).Sublist (tags.map Tag.bare) ∧
      (tags.map Tag.bare = listed.map ListedTag.bare ↔ ∀ tag ∈ listed, ¬tag.Forges) ∧
      ((∀ tag ∈ listed, ¬tag.Forges) → ∀ pattern,
        (Match.searchLatest pattern tags).outcome.map (Option.map (Match.withTag Tag.bare)) =
          (Match.searchLatest pattern (listed.map ListedTag.bare)).outcome) := by
  obtain ⟨told, errors', hover, hnamed, hbare, hforged⟩ := Git.exists_handedOver h htags
  obtain ⟨hsub, hiff⟩ := Git.bare_tagsOf_tagLines hnamed
  rw [hbare] at hsub hiff
  rw [hforged] at hiff
  refine ⟨Git.tagsOf (told.flatMap Git.tagLine), ?_, hsub, hiff, fun hforges pattern ↦ ?_⟩
  · simp only [gitSource, Traced.outcome_bind, Git.outcome_run hover, ok_bind]
    rfl
  · have hname (tag : Tag) : tag.bare.name = tag.name := rfl
    rw [← hiff.2 hforges, Match.outcome_searchLatest_map hname]

def forgingTag : ListedTag :=
  ⟨"v1.0.1-debug", "c1", [], "Fix\x1erefs/tags/v9.9.99-debug\x1fc2\x1f\x1f\n"⟩

theorem forged_tag_wins : ∃ (answers : GitAnswers) (tags : List Tag) (pattern : Pattern),
    answers.tags = .printed 0 ([forgingTag].flatMap Git.tagLine) [] ∧
    (gitSource "." answers).allTags.outcome = .ok tags ∧
    tags.map Tag.bare ≠ [forgingTag].map ListedTag.bare ∧
    Pattern.ofTokens none "debug" = .ok pattern ∧
    (Match.searchLatest pattern tags).outcome =
      .ok (some ⟨⟨"v9.9.99-debug", "c2", [], 1⟩, "9.9", 99⟩) := by
  let pattern : Pattern := ⟨Pattern.defaultTokens, "debug", by decide, by decide, by decide⟩
  let answers : GitAnswers :=
    ⟨.printed 0 ([forgingTag].flatMap Git.tagLine) [], .printed 0 [] []⟩
  have hnamed : ∀ tag ∈ [forgingTag], tag.IsNamed := by
    simp only [List.forall_mem_cons, ListedTag.IsNamed]
    decide
  have hforges : forgingTag.Forges :=
    ⟨"Fix", "refs/tags/v9.9.99-debug\x1fc2\x1f\x1f\n", rfl, by decide⟩
  have hbare : ∀ tag ∈ [forgingTag], tag.bare.uniform = tag.bare := by
    simp only [List.forall_mem_cons]
    decide
  obtain ⟨tags, htags, -, hkept, -⟩ :=
    names_and_commits_kept_iff "." answers [forgingTag] [] hnamed (.inr ⟨rfl, hbare⟩)
  have hread : (gitSource "." answers).allTags.outcome =
      .ok [⟨"v1.0.1-debug", "c1", [], 0⟩, ⟨"v9.9.99-debug", "c2", [], 1⟩] := by decide +kernel
  obtain rfl := Except.ok.inj (htags.symm.trans hread)
  refine ⟨answers, _, pattern, rfl, hread, fun h ↦ ?_, rfl, by decide +kernel⟩
  exact hkept.1 h forgingTag List.mem_cons_self hforges

end Repository

end BuildTags
