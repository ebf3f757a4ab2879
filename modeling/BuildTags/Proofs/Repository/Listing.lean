import BuildTags.Proofs.Repository.History
import BuildTags.Proofs.Text.Trim

namespace BuildTags

namespace Repository

/-- A tag as the command lists it: its name, its object, the object behind that one where there is
one, and its contents. -/
structure ListedTag where
  name : Text
  object : Text
  peeled : Text
  contents : Text

namespace ListedTag

def texts (listed : ListedTag) : List Text :=
  [listed.name, listed.object, listed.peeled, listed.contents]

def IsProper (listed : ListedTag) : Prop :=
  ∀ text ∈ listed.texts, Git.fieldMark ∉ text ∧ Git.recordMark ∉ text

def tag (order : Nat) (listed : ListedTag) : Tag where
  name := listed.name
  sha := if listed.peeled = [] then listed.object else listed.peeled
  message := if listed.peeled = [] then [] else Text.trim listed.contents
  order := order

def fields (listed : ListedTag) : List Text :=
  [Git.refStart ++ listed.name, listed.object, listed.peeled, listed.contents]

def uniform (listed : ListedTag) : ListedTag where
  name := Text.uniformLines listed.name
  object := Text.uniformLines listed.object
  peeled := Text.uniformLines listed.peeled
  contents := Text.uniformLines listed.contents

theorem tag_uniform (order : Nat) (listed : ListedTag) :
    listed.uniform.tag order = (listed.tag order).uniform := by
  have hnil : Text.uniformLines [] = [] := rfl
  by_cases h : listed.peeled = []
  · simp [tag, uniform, Tag.uniform, h, hnil]
  · have hpeeled := Text.uniformLines_ne_nil h
    simp [tag, uniform, Tag.uniform, h, hpeeled, Text.trim_uniformLines]

theorem uniformLines_recordOf_fields (listed : ListedTag) :
    Text.uniformLines (Git.recordOf listed.fields) = Git.recordOf listed.uniform.fields := by
  rw [Git.uniformLines_recordOf]
  simp only [fields, List.map_cons, List.map_nil, Git.uniformLines_refStart_append, uniform]

theorem IsProper.uniform {listed : ListedTag} (h : listed.IsProper) : listed.uniform.IsProper := by
  have htexts : listed.uniform.texts = listed.texts.map Text.uniformLines := rfl
  rw [IsProper, htexts, List.forall_mem_map]
  exact fun text ht ↦ Git.marks_uniformLines (h text ht)

end ListedTag

structure IsNamed (commit : Commit) : Prop where
  ne_nil : commit.sha ≠ []
  not_blank : ∀ c ∈ commit.sha, Text.isBlank c = false

namespace IsNamed

variable {commit : Commit}

theorem uniformLines_sha (h : IsNamed commit) : Text.uniformLines commit.sha = commit.sha := by
  apply Text.uniformLines_of_notMem
  intro hm
  exact absurd (h.not_blank _ hm) (by decide)

theorem uniform (h : IsNamed commit) : IsNamed commit.uniform := by
  have hsha : commit.uniform.sha = commit.sha := h.uniformLines_sha
  exact ⟨hsha ▸ h.ne_nil, hsha ▸ h.not_blank⟩

end IsNamed

instance (commit : Commit) : Decidable (IsNamed commit) :=
  haveI : Decidable (∀ c ∈ commit.sha, Text.isBlank c = false) :=
    List.decidableBAll (fun c ↦ Text.isBlank c = false) commit.sha
  decidable_of_iff (commit.sha ≠ [] ∧ ∀ c ∈ commit.sha, Text.isBlank c = false)
    ⟨fun ⟨hne, hblank⟩ ↦ ⟨hne, hblank⟩, fun h ↦ ⟨h.ne_nil, h.not_blank⟩⟩

namespace Git

/-- A layout with values in place of its placeholders. As many characters as the number tells belong
to a placeholder that has its value already. -/
def fill (values : List (Text × Text)) : Nat → Text → Text
  | _, [] => []
  | passing + 1, _ :: layout => fill values passing layout
  | 0, c :: layout =>
    match values.find? fun (placeholder, _) ↦ placeholder.isPrefixOf (c :: layout) with
    | some (placeholder, value) => value ++ fill values (placeholder.length - 1) layout
    | none => c :: fill values 0 layout

def tagLine (listed : ListedTag) : Text :=
  fill [("%(refname)", refStart ++ listed.name), ("%(objectname)", listed.object),
    ("%(*objectname)", listed.peeled), ("%(contents)", listed.contents)] 0 tagLayout ++ ['\n']

def commitLine (commit : Commit) : Text :=
  fill [("%H", commit.sha), ("%B", commit.message)] 0 commitLayout ++ ['\n']

theorem tagLine_eq (listed : ListedTag) :
    tagLine listed = recordOf listed.fields ++ [recordMark, '\n'] := by
  have hfill : ∀ reference object peeled contents : Text,
      fill [("%(refname)", reference), ("%(objectname)", object), ("%(*objectname)", peeled),
          ("%(contents)", contents)] 0 tagLayout =
        reference ++ fieldMark :: (object ++ fieldMark :: (peeled ++ fieldMark ::
          (contents ++ [recordMark]))) := by
    intros
    rfl
  rw [tagLine, hfill, ListedTag.fields, recordOf]
  simp only [List.intercalate_cons_cons, List.intercalate_singleton, List.append_assoc,
    List.cons_append, List.nil_append]

theorem commitLine_eq (commit : Commit) :
    commitLine commit = commitRecord commit ++ [recordMark, '\n'] := by
  have hfill : ∀ sha message : Text, fill [("%H", sha), ("%B", message)] 0 commitLayout =
      sha ++ fieldMark :: (message ++ [recordMark]) := by
    intros
    rfl
  rw [commitLine, hfill, commitRecord_eq]
  simp only [List.append_assoc, List.cons_append, List.nil_append]

theorem uniformLines_tagLines (listed : List ListedTag) :
    Text.uniformLines (listed.flatMap tagLine) =
      printed (listed.map fun tag ↦ recordOf tag.uniform.fields) := by
  have hprinted : listed.flatMap tagLine = printed (listed.map fun tag ↦ recordOf tag.fields) := by
    rw [printed, List.flatMap_map]
    exact List.flatMap_congr fun tag _ ↦ tagLine_eq tag
  rw [hprinted, uniformLines_printed, List.map_map]
  exact congrArg printed (List.map_congr_left fun tag _ ↦ tag.uniformLines_recordOf_fields)

theorem tagsOf_tagLines {listed : List ListedTag} (h : ∀ tag ∈ listed, tag.IsProper) :
    tagsOf (Text.uniformLines (listed.flatMap tagLine)) =
      listed.mapIdx fun order tag ↦ tag.uniform.tag order := by
  rw [uniformLines_tagLines]
  apply tagsOf_rows
  · intro tag ht
    exact .reference (h tag ht).uniform
  · intro tag _ order
    exact tagOf_fields order _ _ _ _

theorem isRow_commit {commit : Commit} (h : commit.IsProper) (hn : IsNamed commit) :
    IsRow [commit.sha, commit.message] := by
  constructor
  · simp only [List.forall_mem_cons]
    exact ⟨h.sha, h.message, List.forall_mem_nil _⟩
  · obtain ⟨c, rest, hsha⟩ := List.exists_cons_of_ne_nil hn.ne_nil
    have hc : Text.isBlank c = false := by
      apply hn.not_blank
      rw [hsha]
      exact List.mem_cons_self
    exact ⟨c, rest, [commit.message], by rw [hsha], hc⟩

theorem commitsOf_commitLines {commits : List Commit} (h : ∀ commit ∈ commits, commit.IsProper)
    (hn : ∀ commit ∈ commits, IsNamed commit) :
    commitsOf (Text.uniformLines (commits.flatMap commitLine)) =
      commits.map fun commit ↦ ⟨commit.sha, Text.uniformLines (Text.trim commit.message)⟩ := by
  have hprinted : commits.flatMap commitLine = printed (commits.map commitRecord) := by
    rw [printed, List.flatMap_map]
    exact List.flatMap_congr fun commit _ ↦ commitLine_eq commit
  have hrecords : (commits.map commitRecord).map Text.uniformLines =
      ((commits.map Commit.uniform).map fun commit ↦ [commit.sha, commit.message]).map recordOf := by
    rw [List.map_map, List.map_map, List.map_map]
    exact List.map_congr_left fun commit _ ↦ uniformLines_commitRecord commit
  have hrows : ∀ row ∈ (commits.map Commit.uniform).map fun commit ↦ [commit.sha, commit.message],
      IsRow row := by
    rw [List.forall_mem_map, List.forall_mem_map]
    exact fun commit hc ↦ isRow_commit (h commit hc).uniform (hn commit hc).uniform
  rw [commitsOf, hprinted, uniformLines_printed, hrecords, splitRecords_rows hrows, List.map_map,
    List.map_map]
  apply List.map_congr_left
  intro commit hc
  show (⟨Text.trim (Text.uniformLines commit.sha), Text.trim (Text.uniformLines commit.message)⟩ :
    Commit) = _
  rw [(hn commit hc).uniformLines_sha, Text.trim_of_not_blank (hn commit hc).not_blank,
    Text.trim_uniformLines]

end Git

/-- What the command prints in the layouts it is asked for is read item by item, with a line feed for
every line end: every tag with its place in the listing, and every commit. -/
theorem listing_read_back (folder : Text) (answers : GitAnswers) :
    (∀ (listed : List ListedTag) (errors : Text), (∀ tag ∈ listed, tag.IsProper) →
      answers.tags = .printed 0 (listed.flatMap Git.tagLine) errors →
        (gitSource folder answers).allTags.outcome =
          .ok (listed.mapIdx fun order tag ↦ tag.uniform.tag order)) ∧
    ∀ (commits : List Commit) (errors : Text),
      (∀ commit ∈ commits, commit.IsProper ∧ IsNamed commit) →
      answers.log = .printed 0 (commits.flatMap Git.commitLine) errors →
        ∀ after upTo, ((gitSource folder answers).commitsBetween after upTo).outcome =
          .ok (commits.map fun commit ↦
            ⟨commit.sha, Text.uniformLines (Text.trim commit.message)⟩) := by
  constructor
  · intro listed errors hproper htags
    simp only [gitSource, Traced.outcome_bind, htags, Git.outcome_run_printed, ok_bind,
      Git.tagsOf_tagLines hproper]
    rfl
  · intro commits errors hcommits hlog after upTo
    have hread := Git.commitsOf_commitLines (fun commit hc ↦ (hcommits commit hc).1)
      fun commit hc ↦ (hcommits commit hc).2
    simp only [gitSource, Traced.outcome_bind, hlog, Git.outcome_run_printed, ok_bind, hread]
    rfl

/-- A lightweight tag, an annotated one whose message has several lines, and a commit without a
message before another one. -/
theorem two_tags_and_commits_read_back :
    (∀ tag ∈ [⟨"v1.0.1-debug", "c1", [], "subject\n"⟩,
      ⟨"v1.0.2-debug", "t2", "c2", "\nSprint 2\r\n\r\nnotes \n\n"⟩], ListedTag.IsProper tag) ∧
    (∀ commit ∈ [⟨"c1", []⟩, ⟨"c2", " Fix\r\rbody\n"⟩],
      Commit.IsProper commit ∧ IsNamed commit) ∧
    ∃ answers : GitAnswers,
      answers.tags = .printed 0 ("refs/tags/v1.0.1-debug\x1fc1\x1f\x1fsubject\n\x1e\n" ++
        "refs/tags/v1.0.2-debug\x1ft2\x1fc2\x1f\nSprint 2\r\n\r\nnotes \n\n\x1e\n") [] ∧
      answers.log = .printed 0 "c1\x1f\x1e\nc2\x1f Fix\r\rbody\n\x1e\n" [] ∧
      (gitSource "." answers).allTags.outcome =
        .ok [⟨"v1.0.1-debug", "c1", [], 0⟩, ⟨"v1.0.2-debug", "c2", "Sprint 2\n\nnotes", 1⟩] ∧
      ((gitSource "." answers).commitsBetween none "c2").outcome =
        .ok [⟨"c1", []⟩, ⟨"c2", "Fix\n\nbody"⟩] := by
  let answers : GitAnswers :=
    ⟨.printed 0 ("refs/tags/v1.0.1-debug\x1fc1\x1f\x1fsubject\n\x1e\n" ++
      "refs/tags/v1.0.2-debug\x1ft2\x1fc2\x1f\nSprint 2\r\n\r\nnotes \n\n\x1e\n") [],
    .printed 0 "c1\x1f\x1e\nc2\x1f Fix\r\rbody\n\x1e\n" []⟩
  have htags : ∀ tag ∈ [⟨"v1.0.1-debug", "c1", [], "subject\n"⟩,
      ⟨"v1.0.2-debug", "t2", "c2", "\nSprint 2\r\n\r\nnotes \n\n"⟩], ListedTag.IsProper tag := by
    simp only [List.forall_mem_cons, ListedTag.IsProper]
    decide
  have hcommits : ∀ commit ∈ [⟨"c1", []⟩, ⟨"c2", " Fix\r\rbody\n"⟩],
      Commit.IsProper commit ∧ IsNamed commit := by
    simp only [List.forall_mem_cons]
    exact ⟨⟨⟨by decide, by decide⟩, by decide⟩, ⟨⟨by decide, by decide⟩, by decide⟩,
      List.forall_mem_nil _⟩
  obtain ⟨hlisted, hlogged⟩ := listing_read_back "." answers
  refine ⟨htags, hcommits, answers, rfl, rfl, hlisted _ [] htags ?_,
    hlogged _ [] hcommits ?_ none "c2"⟩
  · simp only [List.flatMap_cons, List.flatMap_nil, Git.tagLine_eq]
    rfl
  · simp only [List.flatMap_cons, List.flatMap_nil, Git.commitLine_eq]
    rfl

/-- A message of two lines that a carriage return and a line feed part is not read as it is. -/
theorem return_not_read_back : ∃ (answers : GitAnswers) (listed : ListedTag),
    listed.IsProper ∧ answers.tags = .printed 0 ([listed].flatMap Git.tagLine) [] ∧
    listed = ⟨"v1.0.1-debug", "t1", "c1", "a\r\nb"⟩ ∧
    (gitSource "." answers).allTags.outcome = .ok [⟨"v1.0.1-debug", "c1", "a\nb", 0⟩] ∧
    (gitSource "." answers).allTags.outcome ≠ .ok ([listed].mapIdx ListedTag.tag) := by
  let listed : ListedTag := ⟨"v1.0.1-debug", "t1", "c1", "a\r\nb"⟩
  let answers : GitAnswers := ⟨.printed 0 ([listed].flatMap Git.tagLine) [], .printed 0 [] []⟩
  have hproper : listed.IsProper := by
    rw [ListedTag.IsProper]
    decide
  have hread : (gitSource "." answers).allTags.outcome =
      .ok [⟨"v1.0.1-debug", "c1", "a\nb", 0⟩] := by decide +kernel
  refine ⟨answers, listed, hproper, rfl, rfl, hread, ?_⟩
  rw [hread]
  decide

end Repository

end BuildTags
