import BuildTags.Proofs.Build.Train

namespace BuildTags.Train

open Pattern (defaultTokens)

/-- The tags after a step. A step that fails leaves them as they are. -/
def Step.after (pattern : Pattern) (tags : List Tag) (step : Step) : List Tag :=
  match step.take pattern tags with
  | .ok (tags', _) => tags'
  | .error _ => tags

def Step.made? (pattern : Pattern) (tags : List Tag) (step : Step) : Option Text :=
  match step.take pattern tags with
  | .ok (_, name) => name
  | .error _ => none

def run (pattern : Pattern) (tags : List Tag) (steps : List Step) : List Tag :=
  steps.foldl (Step.after pattern) tags

def madeNames (pattern : Pattern) : List Tag → List Step → List Text
  | _, [] => []
  | tags, step :: steps =>
    (step.made? pattern tags).toList ++ madeNames pattern (step.after pattern tags) steps

def Numbered (pattern : Pattern) (name : Text) (number : Int) : Prop :=
  ∃ version, pattern.read name = .ok (some (version, number))

def Below (pattern : Pattern) (first second : Text) : Prop :=
  ∃ m n, Numbered pattern first m ∧ Numbered pattern second n ∧ m < n

def Holds (pattern : Pattern) (tags : List Tag) (number : Int) : Prop :=
  ∃ tag ∈ tags, Numbered pattern tag.name number

/-- What comes of a step that tags the next build: a failure where there are too many digits, or one
more tag that advances the build before it. -/
def NextOutcome (pattern : Pattern) (tags : List Tag) (sha message : Text) (order : Nat) : Prop :=
  (MeetsLimit pattern tags ∧ ∃ fault : Numeral.Fault, fault.IsLimit ∧
    (Step.next sha message order).take pattern tags = .error (.numeral fault)) ∨
  ∃ build name, latest pattern tags = .ok build ∧
    (Step.next sha message order).take pattern tags =
      .ok (tags ++ [⟨name, sha, message, order⟩], some name) ∧
    Advances pattern tags build.version (build.number + 1) ⟨name, sha, message, order⟩

variable {pattern : Pattern} {tags : List Tag} {step : Step} {steps : List Step} {number : Int}

theorem nextOutcome (ht : pattern.tokens = defaultTokens) (hdot : '.' ∉ pattern.variant)
    (tags : List Tag) (sha message : Text) (order : Nat) :
    NextOutcome pattern tags sha message order := by
  obtain ⟨hmeets, fault, hlimit, hn⟩ | ⟨build, name, hl, hn, hr⟩ := nextName_default ht hdot tags
  · exact .inl ⟨hmeets, fault, hlimit, by rw [Step.take, hn]; rfl⟩
  · exact .inr ⟨build, name, hl, by rw [Step.take, hn]; rfl,
      advances_of_read hl (Int.lt_succ _) hr⟩

theorem madeNames_next {name : Text} (h : nextName pattern tags = .ok name) (sha message : Text)
    (order : Nat) (steps : List Step) :
    madeNames pattern tags (.next sha message order :: steps) =
      name :: madeNames pattern (tags ++ [⟨name, sha, message, order⟩]) steps := by
  rw [madeNames, Step.made?, Step.after, Step.take, h]
  rfl

theorem Holds.after (h : Holds pattern tags number) (hd : ∀ name, step ≠ .delete name) :
    Holds pattern (step.after pattern tags) number := by
  obtain ⟨tag, ht, hn⟩ := h
  refine ⟨tag, ?_, hn⟩
  cases step with
  | add new => exact List.mem_append_left _ ht
  | delete name => exact absurd rfl (hd name)
  | next sha message order =>
    rw [Step.after, Step.take]
    cases nextName pattern tags with
    | error failure => exact ht
    | ok name => exact List.mem_append_left _ ht

theorem eq_next_of_made? {name : Text} (h : step.made? pattern tags = some name) :
    ∃ sha message order, step = .next sha message order := by
  cases step with
  | add tag => cases h
  | delete other => cases h
  | next sha message order => exact ⟨sha, message, order, rfl⟩

/-- The name that a step makes has a number above all that the tags held, and the tags hold it
then. -/
theorem exists_number_of_made? (ht : pattern.tokens = defaultTokens) (hdot : '.' ∉ pattern.variant)
    {name : Text} (h : step.made? pattern tags = some name) :
    ∃ n, Numbered pattern name n ∧ Holds pattern (step.after pattern tags) n ∧
      ∀ m, Holds pattern tags m → m < n := by
  obtain ⟨sha, message, order, rfl⟩ := eq_next_of_made? h
  obtain ⟨-, fault, -, he⟩ | ⟨build, name', hl, hk, ha⟩ := nextOutcome ht hdot tags sha message order
  · rw [Step.made?, he] at h
    cases h
  · rw [Step.made?, hk] at h
    obtain rfl := Option.some.inj h
    refine ⟨build.number + 1, ⟨_, ha.reads⟩, ?_, fun m hm ↦ ?_⟩
    · rw [Step.after, hk]
      exact ⟨_, List.mem_append_right _ (List.mem_singleton.2 rfl), _, ha.reads⟩
    · obtain ⟨tag, hmem, version, hr⟩ := hm
      have hle := number_le_of_latest hl hmem hr
      omega

/-- Without deletions, all names that are made have numbers above one that the tags hold. -/
theorem lt_of_mem_madeNames (ht : pattern.tokens = defaultTokens) (hdot : '.' ∉ pattern.variant)
    (hd : ∀ name, .delete name ∉ steps) (h : Holds pattern tags number) {name : Text}
    (hm : name ∈ madeNames pattern tags steps) : ∃ n, Numbered pattern name n ∧ number < n := by
  induction steps generalizing tags with
  | nil => cases hm
  | cons step steps ih =>
    have hstep : ∀ name, step ≠ .delete name := fun name he ↦ hd name (by simp [he])
    rw [madeNames, List.mem_append, Option.mem_toList] at hm
    obtain hm | hm := hm
    · obtain ⟨n, hn, -, hlt⟩ := exists_number_of_made? ht hdot hm
      exact ⟨n, hn, hlt _ h⟩
    · exact ih (fun name hx ↦ hd name (List.mem_cons_of_mem _ hx)) (h.after hstep) hm

theorem pairwise_madeNames (ht : pattern.tokens = defaultTokens) (hdot : '.' ∉ pattern.variant)
    (tags : List Tag) (hd : ∀ name, .delete name ∉ steps) :
    (madeNames pattern tags steps).Pairwise (Below pattern) := by
  induction steps generalizing tags with
  | nil => exact .nil
  | cons step steps ih =>
    have hrest : ∀ name, .delete name ∉ steps := fun name hx ↦ hd name (List.mem_cons_of_mem _ hx)
    rw [madeNames]
    cases hm : step.made? pattern tags with
    | none => exact ih _ hrest
    | some name =>
      obtain ⟨m, hn, hholds, -⟩ := exists_number_of_made? ht hdot hm
      refine List.pairwise_cons.2 ⟨fun later hl ↦ ?_, ih _ hrest⟩
      obtain ⟨n, hn', hlt⟩ := lt_of_mem_madeNames ht hdot hrest hholds hl
      exact ⟨m, n, hn, hn', hlt⟩

/-- In every run under the default tokens each step that tags the next build advances the build before
it, unless there are too many digits; without deletions, the numbers of the new tags rise. -/
theorem next_advances_in_run {variant : Text} (hv : variant ≠ []) (hdot : '.' ∉ variant)
    (tags : List Tag) (steps : List Step) :
    ∃ pattern, Pattern.ofTokens none variant = .ok pattern ∧
      (∀ before sha message order after, steps = before ++ .next sha message order :: after →
        NextOutcome pattern (run pattern tags before) sha message order) ∧
      ((∀ name, .delete name ∉ steps) → (madeNames pattern tags steps).Pairwise (Below pattern)) := by
  obtain ⟨pattern, hp⟩ := (@Pattern.exists_ofTokens_eq_ok_iff none variant).2
    ⟨hv, by decide, by decide⟩
  obtain ⟨ht, rfl⟩ := Pattern.ofTokens_eq_ok_iff.1 hp
  exact ⟨pattern, hp, fun before sha message order _ _ ↦ nextOutcome ht hdot _ sha message order,
    pairwise_madeNames ht hdot tags⟩

/-- A foreign tag is added, and then the next build of a variant is tagged twice. -/
theorem debug_next_twice : ("debug" : Text) ≠ [] ∧ '.' ∉ ("debug" : Text) ∧
    ∃ pattern, Pattern.ofTokens none "debug" = .ok pattern ∧
      NextOutcome pattern
        (run pattern [] [.add ⟨"v1.0.09-debug-3", "a", [], 0⟩, .next "b" [] 1]) "c" [] 2 ∧
      madeNames pattern [] [.add ⟨"v1.0.09-debug-3", "a", [], 0⟩, .next "b" [] 1,
        .next "c" [] 2] = [("v1.0.10-debug-3" : Text), "v1.0.11-debug-3"] ∧
      (madeNames pattern [] [.add ⟨"v1.0.09-debug-3", "a", [], 0⟩, .next "b" [] 1,
        .next "c" [] 2]).Pairwise (Below pattern) := by
  have hv : ("debug" : Text) ≠ [] := by decide
  have hdot : '.' ∉ ("debug" : Text) := by decide
  obtain ⟨pattern, hp, hnext, hrise⟩ := next_advances_in_run hv hdot []
    [.add ⟨"v1.0.09-debug-3", "a", [], 0⟩, .next "b" [] 1, .next "c" [] 2]
  have hdebug : Pattern.ofTokens none "debug" =
      .ok ⟨defaultTokens, "debug", by decide, by decide, by decide⟩ := rfl
  obtain rfl := Except.ok.inj (hdebug.symm.trans hp)
  have hfirst : nextName ⟨defaultTokens, "debug", by decide, by decide, by decide⟩
      [⟨"v1.0.09-debug-3", "a", [], 0⟩] = .ok "v1.0.10-debug-3" := by
    rw [nextName, latest_eq]
    decide +kernel
  have hsecond : nextName ⟨defaultTokens, "debug", by decide, by decide, by decide⟩
      [⟨"v1.0.09-debug-3", "a", [], 0⟩, ⟨"v1.0.10-debug-3", "b", [], 1⟩] =
        .ok "v1.0.11-debug-3" := by
    rw [nextName, latest_eq]
    decide +kernel
  refine ⟨hv, hdot, _, hp, ?_, ?_, hrise (by simp)⟩
  · exact hnext [.add ⟨"v1.0.09-debug-3", "a", [], 0⟩, .next "b" [] 1] "c" [] 2 [] rfl
  · exact (madeNames_next hfirst "b" [] 1 _).trans (congrArg _ (madeNames_next hsecond "c" [] 2 []))

end BuildTags.Train
