import BuildTags.Proofs.Configuration.Acceptance

namespace BuildTags.Configuration

variable {host : Host} {name : Text} {names : List Text}
  {members members' entries entries' : Members} {value value' : Json.Value}
  {output output' : Output} {outputs : List (Text × Output)} {settings : Changelog.Settings}
  {configuration : Configuration}

inductive Alike (R : Members → Members → Prop) : Json.Value → Json.Value → Prop
  | same (value : Json.Value) : Alike R value value
  | objects {members members' : Members} (h : R members members') :
    Alike R (.object members) (.object members')

/-- Whether the same is found under each of some names, however the members are ordered and
whatever else there is. -/
def AgreeOn (names : List Text) (members members' : Members) : Prop :=
  ∀ name ∈ names, Json.member? name members = Json.member? name members'

def outputNames : List Text :=
  ["baseFileName", "buildTagPatternBuilderFunctions", "useDefaultsForVersionsAsFallback",
    "useStubsForTagAsFallback", "useVersionsFromTag", "versionCode", "versionCodeStrategy",
    "versionName", "versionNameStrategy"]

def changelogNames : List Text :=
  ["commitMessageKey", "issueNumberPattern", "issueUrlPrefix", "linkFormat"]

structure AlikeOutputs (entries entries' : Members) : Prop where
  nodup : (entries.map (·.1)).Nodup
  nodup' : (entries'.map (·.1)).Nodup
  rel : ∀ name : Text, Option.Rel (Alike (AgreeOn outputNames))
    (Json.member? name entries) (Json.member? name entries')

def SameOutputs (outputs' outputs : List (Text × Output)) : Prop :=
  ∀ name : Text, (outputs'.find? (·.1 = name)).map (·.2) = (outputs.find? (·.1 = name)).map (·.2)

/-- Whether two documents differ in the order of members and in unknown members only. -/
structure AlikeDocuments (members members' : Members) : Prop where
  outputs : Option.Rel (Alike AlikeOutputs)
    (Json.member? "outputs" members) (Json.member? "outputs" members')
  changelog : Option.Rel (Alike (AgreeOn changelogNames))
    (Json.member? "changelog" members) (Json.member? "changelog" members')

theorem agreeOn_of_perm (others : Members) (hd : (members'.map (·.1)).Nodup)
    (h : members'.Perm (members ++ others)) (ho : ∀ member ∈ others, member.1 ∉ names) :
    AgreeOn names members members' :=
  fun _ hn ↦ member?_of_perm others hd h fun member hm he ↦ ho member hm (he ▸ hn)

theorem Gives.of_rel {α : Type} {R : Json.Value → Json.Value → Prop} {T : α → α → Prop}
    {StandsFor : Json.Value → α → Prop} {default a : α}
    (hr : Option.Rel R (Json.member? name members) (Json.member? name members'))
    (ht : T default default)
    (hs : ∀ {value value'}, R value value' → StandsFor value a → ∃ a', StandsFor value' a' ∧ T a' a)
    (h : Gives members name StandsFor default a) :
    ∃ a', Gives members' name StandsFor default a' ∧ T a' a := by
  obtain hn | ⟨hg, ha⟩ := h
  · rw [hn] at hr
    generalize hn' : Json.member? name members' = found at hr
    cases hr
    exact ⟨default, .missing hn', ht⟩
  · rw [hg] at hr
    generalize hg' : Json.member? name members' = found at hr
    cases hr with
    | some hr =>
      obtain ⟨a', ha', ht⟩ := hs hr ha
      exact ⟨a', .given hg' ha', ht⟩

theorem Output.IsGiven.of_agreeOn (ha : AgreeOn outputNames members members')
    (h : output.IsGiven members) : output.IsGiven members' where
  fromTag := h.fromTag.congr (ha _ (by decide))
  stubFallback := h.stubFallback.congr (ha _ (by decide))
  defaultsFallback := h.defaultsFallback.congr (ha _ (by decide))
  defaultCode := h.defaultCode.congr (ha _ (by decide))
  defaultName := h.defaultName.congr (ha _ (by decide))
  baseFileName := h.baseFileName.congr (ha _ (by decide))
  codeStrategy := h.codeStrategy.congr (ha _ (by decide))
  nameStrategy := h.nameStrategy.congr (ha _ (by decide))
  tokens := h.tokens.congr (ha _ (by decide))

theorem IsOutput.of_alike (ha : Alike (AgreeOn outputNames) value value')
    (h : IsOutput name value output) : IsOutput name value' output := by
  obtain _ | ha := ha
  · exact h
  · obtain ⟨members, hm, hname, h⟩ := h
    cases hm
    exact ⟨_, rfl, hname, h.of_agreeOn ha⟩

theorem IsOutput.unique (h : IsOutput name value output) (h' : IsOutput name value output') :
    output = output' :=
  Except.ok.inj ((outputOfJson_eq_ok_iff.2 h).symm.trans (outputOfJson_eq_ok_iff.2 h'))

theorem IsChangelog.of_alike (ha : Alike (AgreeOn changelogNames) value value')
    (h : IsChangelog host value settings) : IsChangelog host value' settings := by
  obtain _ | ha := ha
  · exact h
  · obtain ⟨members, hm, h⟩ := h
    cases hm
    exact ⟨_, rfl, {
      issues := h.issues.congr (ha _ (by decide))
      linkFormat := h.linkFormat.congr (ha _ (by decide))
      urlStart := h.urlStart.congr (ha _ (by decide))
      key := h.key.congr (ha _ (by decide)) }⟩

theorem rel_of_outputs (h : List.Forall₂
      (fun member entry ↦ entry.1 = member.1 ∧ IsOutput member.1 member.2 entry.2) entries outputs)
    (name : Text) :
    Option.Rel (IsOutput name) (Json.member? name entries)
      ((outputs.find? (·.1 = name)).map (·.2)) := by
  induction h with
  | nil => exact .none
  | @cons member entry _ _ ho _ ih =>
    obtain ⟨hname, ho⟩ := ho
    by_cases hn : member.1 = name
    · simp only [Json.member?, hname, hn, decide_true, List.find?_cons_of_pos, Option.map_some]
      exact .some (hn ▸ ho)
    · simpa [Json.member?, hname, hn] using ih

theorem rel_isOutput_of_alike {value value' : Option Json.Value} {output : Option Output}
    (ha : Option.Rel (Alike (AgreeOn outputNames)) value value')
    (h : Option.Rel (IsOutput name) value output) : Option.Rel (IsOutput name) value' output := by
  cases ha with
  | none => exact h
  | some ha =>
    cases h with
    | some h => exact .some (h.of_alike ha)

theorem rel_isOutput_unique {value : Option Json.Value} {output output' : Option Output}
    (h : Option.Rel (IsOutput name) value output) (h' : Option.Rel (IsOutput name) value output') :
    output = output' := by
  cases h with
  | none =>
    cases h' with
    | none => rfl
  | some h =>
    cases h' with
    | some h' => rw [h.unique h']

theorem AreOutputs.of_alike (ha : Alike AlikeOutputs value value') (h : AreOutputs value outputs) :
    ∃ outputs', AreOutputs value' outputs' ∧ SameOutputs outputs' outputs := by
  obtain _ | @⟨entries, entries', ha⟩ := ha
  · exact ⟨outputs, h, fun _ ↦ rfl⟩
  obtain ⟨entries, he, h⟩ := h
  cases he
  have hrel : ∀ name, Option.Rel (IsOutput name) (Json.member? name entries')
      ((outputs.find? (·.1 = name)).map (·.2)) :=
    fun name ↦ rel_isOutput_of_alike (ha.rel name) (rel_of_outputs h name)
  obtain ⟨outputs', h'⟩ : ∃ outputs', outputsOfJson entries' = .ok outputs' := by
    rw [exists_outputsOfJson_iff]
    rintro ⟨name, value⟩ he
    have hn := hrel name
    rw [(member?_eq_some_iff ha.nodup').2 he] at hn
    generalize (outputs.find? (·.1 = name)).map (·.2) = output at hn
    cases hn with
    | some hn => exact ⟨_, outputOfJson_eq_ok_iff.2 hn⟩
  have h' := outputsOfJson_eq_ok_iff.1 h'
  exact ⟨outputs', ⟨entries', rfl, h'⟩,
    fun name ↦ rel_isOutput_unique (rel_of_outputs h' name) (hrel name)⟩

/-- An accepted document stays accepted, with the same meaning, when members are put in another
order and unknown ones come or go. -/
theorem ofJson_of_alike (ha : Alike AlikeDocuments value value')
    (h : ofJson value host = .ok configuration) :
    ∃ configuration', ofJson value' host = .ok configuration' ∧
      configuration'.changelog = configuration.changelog ∧
      ∀ name, configuration'.output? name = configuration.output? name := by
  obtain _ | ha := ha
  · exact ⟨configuration, h, rfl, fun _ ↦ rfl⟩
  have hg := ofJson_object_eq_ok_iff.1 h
  obtain ⟨outputs, ho, hsame⟩ :=
    hg.outputs.of_rel ha.outputs (T := SameOutputs) (fun _ ↦ rfl) AreOutputs.of_alike
  obtain ⟨changelog, hc, he⟩ :=
    hg.changelog.of_rel ha.changelog rfl fun ha h ↦ ⟨_, h.of_alike ha, rfl⟩
  exact ⟨⟨outputs, changelog⟩, ofJson_object_eq_ok_iff.2 ⟨ho, hc⟩, he, hsame⟩

theorem outputOf_eq_of_output?_eq {configuration configuration' : Configuration}
    (h : ∀ name, configuration'.output? name = configuration.output? name) (variant : Text) :
    configuration'.outputOf variant = configuration.outputOf variant := by
  rw [outputOf, outputOf, h, h]

/-- Which documents are accepted, what each of them means, and that neither the order of members
nor unknown ones matter. -/
theorem documents_accepted (host : Host) (value : Json.Value) :
    ((∃ configuration, ofJson value host = .ok configuration) ↔
      ∃ members, value = .object members ∧ Admits host members) ∧
    (∀ configuration, ofJson value host = .ok configuration ↔
      ∃ members, value = .object members ∧ configuration.IsGiven host members) ∧
    ∀ value' configuration, Alike AlikeDocuments value value' →
      ofJson value host = .ok configuration →
      ∃ configuration', ofJson value' host = .ok configuration' ∧
        configuration'.changelog = configuration.changelog ∧
        ∀ variant, configuration'.output? variant = configuration.output? variant ∧
          configuration'.outputOf variant = configuration.outputOf variant := by
  refine ⟨exists_ofJson_iff, fun _ ↦ ofJson_eq_ok_iff, fun value' configuration ha h ↦ ?_⟩
  obtain ⟨configuration', h', hc, ho⟩ := ofJson_of_alike ha h
  exact ⟨configuration', h', hc, fun variant ↦ ⟨ho variant, outputOf_eq_of_output?_eq ho variant⟩⟩

def namingBullet : Host where
  named name := if name = "BULLET" then some '•' else none

def bullet : Changelog.IssuePattern where
  source := "\\N\x7bBULLET\x7d"
  regex := ⟨.letter (.code 0x2022 .exact false)⟩
  reads := ⟨namingBullet.named, by decide +kernel⟩

theorem read_bullet : Regex.read bullet.source namingBullet.named = .ok bullet.regex := by
  have hread : (Regex.read bullet.source namingBullet.named).toOption = some bullet.regex := by
    decide +kernel
  exact toOption_eq_some_iff.1 hread

def sparse : Members :=
  [("outputs", .object [("beta", .object [("versionCode", .null), ("versionName", .text "0.1"),
      ("useStubsForTagAsFallback", .bool false)]), ("default", .object [])]),
    ("changelog", .object [("commitMessageKey", .text []), ("linkFormat", .text "slack"),
      ("issueNumberPattern", .text bullet.source)])]

def sparseMeaning : Configuration where
  outputs := [("beta", { name := "beta", version := { stubFallback := false, defaultName := "0.1" } }),
    ("default", { name := "default" })]
  changelog := { issues := bullet, linkFormat := "slack" }

theorem sparse_isGiven : sparseMeaning.IsGiven namingBullet sparse where
  outputs := .given rfl ⟨_, rfl, .cons ⟨rfl, _, rfl, rfl,
      .missing rfl, .given rfl rfl, .missing rfl, .given rfl rfl, .given rfl rfl, .missing rfl,
      .missing rfl, .missing rfl, .missing rfl⟩
    (.cons ⟨rfl, _, rfl, rfl, .missing rfl, .missing rfl, .missing rfl, .missing rfl, .missing rfl,
      .missing rfl, .missing rfl, .missing rfl, .missing rfl⟩ .nil)⟩
  changelog := .given rfl ⟨_, rfl,
    .given rfl ⟨rfl, Changelog.IssuePattern.read_of_regex rfl read_bullet⟩,
    .given rfl ⟨rfl, by decide⟩, .missing rfl, .given rfl ⟨some [], rfl, rfl⟩⟩

def sparseReordered : Members :=
  [("changelog", .object [("issueNumberPattern", .text bullet.source),
      ("linkFormat", .text "slack"), ("commitMessageKey", .text []), ("note", .whole 1)]),
    ("version", .whole 2),
    ("outputs", .object [("default", .object [("versioncode", .bool true)]),
      ("beta", .object [("useStubsForTagAsFallback", .bool false), ("versionName", .text "0.1"),
        ("versionCode", .null)])])]

theorem sparse_alike : AlikeDocuments sparse sparseReordered where
  outputs := by
    refine .some (.objects ⟨by decide, by decide, fun name ↦ ?_⟩)
    by_cases hb : name = "beta"
    · subst hb
      exact .some (.objects (agreeOn_of_perm [] (by decide) (List.reverse_perm [_, _, _]) (by simp)))
    · by_cases hd : name = "default"
      · subst hd
        exact .some (.objects (agreeOn_of_perm [_] (by decide) (.refl _) (by decide)))
      · rw [member?_eq_none_iff.2, member?_eq_none_iff.2]
        · exact .none
        · exact List.forall_mem_cons.2 ⟨Ne.symm hd, List.forall_mem_singleton.2 (Ne.symm hb)⟩
        · exact List.forall_mem_cons.2 ⟨Ne.symm hb, List.forall_mem_singleton.2 (Ne.symm hd)⟩
  changelog := .some (.objects (agreeOn_of_perm [_] (by decide)
    ((List.reverse_perm [_, _, _]).append_right [_]) (by decide)))

theorem reordered_document_accepted :
    ofJson (.object sparse) namingBullet = .ok sparseMeaning ∧ ∃ configuration,
      ofJson (.object sparseReordered) namingBullet = .ok configuration ∧
      configuration.changelog = sparseMeaning.changelog ∧
      ∀ variant, configuration.outputOf variant = sparseMeaning.outputOf variant := by
  obtain ⟨-, hmeaning, halike⟩ := documents_accepted namingBullet (.object sparse)
  have h := (hmeaning sparseMeaning).2 ⟨sparse, rfl, sparse_isGiven⟩
  obtain ⟨configuration, h', hc, ho⟩ := halike _ _ (.objects sparse_alike) h
  exact ⟨h, configuration, h', hc, fun variant ↦ (ho variant).2⟩

end BuildTags.Configuration
