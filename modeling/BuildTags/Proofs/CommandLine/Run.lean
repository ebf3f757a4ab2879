import BuildTags.CommandLine.Execute
import BuildTags.Proofs.Outcome

namespace BuildTags.CommandLine

variable {α β : Type} {before : Progress}

namespace Run

def result (step : Run α) (before : Progress) : Except Failure α × Progress :=
  (ExceptT.run step) before

variable {step : Run α} {next : α → Run β}

theorem result_bind (step : Run α) (next : α → Run β) (before : Progress) :
    (step >>= next).result before = match step.result before with
      | (.ok a, after) => (next a).result after
      | (.error failure, after) => (.error failure, after) := by
  unfold result ExceptT.run
  simp only [Bind.bind, ExceptT.bind, ExceptT.mk, StateT.bind]
  cases step before with
  | mk outcome after => cases outcome <;> rfl

theorem result_bind_of_ok {a : α} {after : Progress} (h : step.result before = (.ok a, after)) :
    (step >>= next).result before = (next a).result after := by
  rw [result_bind, h]

theorem result_bind_of_error {failure : Failure} {after : Progress}
    (h : step.result before = (.error failure, after)) :
    (step >>= next).result before = (.error failure, after) := by
  rw [result_bind, h]

theorem result_bind_eq_ok_iff {b : β} {after : Progress} :
    (step >>= next).result before = (.ok b, after) ↔ ∃ a between,
      step.result before = (.ok a, between) ∧ (next a).result between = (.ok b, after) := by
  rw [result_bind]
  constructor
  · intro h
    split at h
    · rename_i a between hstep
      exact ⟨a, between, hstep, h⟩
    · cases h
  · rintro ⟨a, between, hstep, hnext⟩
    rw [hstep]
    exact hnext

theorem result_map (f : α → β) (step : Run α) (before : Progress) : (f <$> step).result before =
    ((step.result before).1.map f, (step.result before).2) := by
  unfold result ExceptT.run
  simp only [Functor.map, ExceptT.map, ExceptT.mk, Bind.bind, StateT.bind]
  cases step before with
  | mk outcome after => cases outcome <;> rfl

theorem result_tryCatch (step : Run α) (handler : Failure → Run α) (before : Progress) :
    (tryCatch step handler).result before = match step.result before with
      | (.ok a, after) => (.ok a, after)
      | (.error failure, after) => (handler failure).result after := by
  unfold result ExceptT.run
  simp only [tryCatch, tryCatchThe, MonadExceptOf.tryCatch, ExceptT.tryCatch, ExceptT.mk, Bind.bind,
    StateT.bind]
  cases step before with
  | mk outcome after => cases outcome <;> rfl

theorem result_traced (step : Traced α) (before : Progress) : (traced step).result before =
    (step.outcome, { before with events := before.events ++ step.events }) := by
  cases h : step.outcome <;> simp only [traced, h] <;> rfl

theorem result_print (text : Text) (before : Progress) : (print text).result before =
    (.ok (), { before with printed := before.printed ++ text ++ ['\n'] }) := rfl

theorem result_change (step : Disk → Disk.Change) (before : Progress) : (change step).result before =
    ((step before.disk).2.mapError .disk, { before with disk := (step before.disk).1 }) := by
  have hget : (get : Run Progress).result before = (.ok before, before) := rfl
  rw [change, result_bind_of_ok hget]
  cases h : step before.disk with
  | mk disk outcome =>
    cases outcome with
    | ok a => rfl
    | error fault => rfl

theorem result_changeOrLeave (step : Disk → Except Disk.Fault Disk) (before : Progress) :
    (changeOrLeave step).result before = match step before.disk with
      | .ok disk => (.ok (), { before with disk })
      | .error fault => (.error (.disk fault), before) := by
  rw [changeOrLeave, result_change]
  cases step before.disk <;> rfl

/-- A step that prints nothing and leaves the files alone; `outcome` tells what it comes to. -/
def Quiet (step : Run α) (outcome : Disk → Except Failure α) : Prop :=
  ∀ before, ∃ events, step.result before = (outcome before.disk, { before with events })

namespace Quiet

variable {outcome : Disk → Except Failure α} {o : α → Disk → Except Failure β}

theorem pure (a : α) : Quiet (Pure.pure a) fun _ ↦ .ok a := fun before ↦ ⟨before.events, rfl⟩

theorem traced (step : Traced α) : Quiet (traced step) fun _ ↦ step.outcome :=
  fun before ↦ ⟨_, result_traced step before⟩

theorem note (level : Level) (text : Text) : Quiet (note level text) fun _ ↦ .ok () :=
  traced _

theorem look (view : Disk → Except Failure α) : Quiet (look view) view :=
  fun before ↦ ⟨_, result_traced (.of (view before.disk)) before⟩

theorem bind {outcome' : Disk → Except Failure β} (h : Quiet step outcome)
    (h' : ∀ a, Quiet (next a) (o a))
    (hb : ∀ disk, (outcome disk >>= fun a ↦ o a disk) = outcome' disk) :
    Quiet (step >>= next) outcome' := by
  intro before
  obtain ⟨events, he⟩ := h before
  rw [← hb]
  cases ho : outcome before.disk with
  | error failure =>
    rw [ho] at he
    exact ⟨events, Run.result_bind_of_error he⟩
  | ok a =>
    rw [ho] at he
    obtain ⟨events', he'⟩ := h' a { before with events }
    exact ⟨events', (Run.result_bind_of_ok he).trans he'⟩

theorem result_bind_of_ok (h : Quiet step outcome) {a : α} (ho : outcome before.disk = .ok a) :
    ∃ events, (step >>= next).result before = (next a).result { before with events } := by
  obtain ⟨events, he⟩ := h before
  rw [ho] at he
  exact ⟨events, Run.result_bind_of_ok he⟩

theorem result_bind_of_error (h : Quiet step outcome) {failure : Failure}
    (ho : outcome before.disk = .error failure) :
    ∃ events, (step >>= next).result before = (.error failure, { before with events }) := by
  obtain ⟨events, he⟩ := h before
  rw [ho] at he
  exact ⟨events, Run.result_bind_of_error he⟩

end Quiet

end Run

open Run

theorem quiet_loadConfiguration (host : Host) (path : Option Disk.Path) :
    Quiet (loadConfiguration host path) (configurationAt host · path) := by
  refine .bind (.look _) (o := fun configuration _ ↦ .ok configuration) ?_ ?_
  · intro configuration
    cases path with
    | none => exact .bind (.note _ _) (fun _ ↦ .pure configuration) fun _ ↦ rfl
    | some path => exact .bind (.note _ _) (fun _ ↦ .pure configuration) fun _ ↦ rfl
  · intro disk
    cases configurationAt host disk path <;> rfl

end BuildTags.CommandLine
