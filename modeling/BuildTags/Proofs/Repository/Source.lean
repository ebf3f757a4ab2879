import BuildTags.Proofs.Failure
import BuildTags.Repository.Git
import BuildTags.Repository.Service

namespace BuildTags.Repository

structure Source.IsReported (source : Source) : Prop where
  allTags : Reports source.allTags.outcome
  commitsBetween : ∀ after upTo, Reports (source.commitsBetween after upTo).outcome

theorem Git.reports_run (folder : Text) (arguments : List Text) (ending : Ending) :
    Reports (run folder arguments ending).outcome := by
  refine .traced (.ok _) fun _ _ ↦ .traced (.ok _) fun _ _ ↦ ?_
  cases ending.handedOver with
  | error reason => exact .error rfl
  | ok found =>
    obtain ⟨code, output, errors⟩ := found
    by_cases hc : code = 0
    · simp only [hc, if_true]
      exact .ok output
    · simp only [hc, if_false]
      refine .traced (.ok _) fun _ _ ↦ ?_
      exact .error rfl

theorem isReported_gitSource (folder : Text) (answers : GitAnswers) :
    (gitSource folder answers).IsReported where
  allTags := .traced (Git.reports_run _ _ _) fun _ _ ↦ .traced (.ok _) fun _ _ ↦ .ok _
  commitsBetween _ _ := .traced (Git.reports_run _ _ _) fun _ _ ↦ .ok _

namespace Service

variable {α : Type} {failure : Text → Failure}

theorem reports_answer (hf : ∀ reason, (failure reason).isReported = true)
    (outcome : Except Refusal α) : Reports (answer failure outcome).outcome := by
  cases outcome with
  | ok a => exact .ok a
  | error refusal =>
    refine .traced ?_ fun text _ ↦ .error (hf text)
    exact .mapError fun _ ↦ rfl

theorem reports_tagsOf (hf : ∀ reason, (failure reason).isReported = true)
    (answers : ServiceAnswers) (order : Nat) (references : List Reference) :
    Reports (tagsOf answers failure order references).outcome := by
  induction references generalizing order with
  | nil => exact .ok _
  | cons reference references ih =>
    refine .traced ?_ fun _ _ ↦ .traced (ih (order + 1)) fun _ _ ↦ .ok _
    rw [target]
    split
    · exact .traced (.ok _) fun _ _ ↦ .traced (reports_answer hf _) fun _ _ ↦ .ok _
    · exact .ok _

theorem reports_allTags (repository : Text) (answers : ServiceAnswers) :
    Reports (allTags repository answers).outcome := by
  refine .traced (.ok _) fun _ _ ↦ .traced (reports_answer (fun _ ↦ rfl) _) fun _ _ ↦ ?_
  exact .traced (reports_tagsOf (fun _ ↦ rfl) _ _ _) fun _ _ ↦ .traced (.ok _) fun _ _ ↦ .ok _

theorem reports_commitsBetween (answers : ServiceAnswers) (after : Option Text) (upTo : Text) :
    Reports (commitsBetween answers after upTo).outcome := by
  cases after with
  | none =>
    exact .traced (.ok _) fun _ _ ↦ .traced (reports_answer (fun _ ↦ rfl) _) fun _ _ ↦ .ok _
  | some base => exact .traced (.ok _) fun _ _ ↦ reports_answer (fun _ ↦ rfl) _

end Service

/-- A service is opened, or a setting is missing, or the service refuses the repository. -/
theorem outcome_serviceSource (token repository : Text) (answers : ServiceAnswers) :
    (∃ missing, (serviceSource token repository answers).outcome = .error (.credential missing)) ∨
    (token ≠ [] ∧ repository ≠ [] ∧ ∃ refusal, answers.repository = .error refusal ∧
      (serviceSource token repository answers).outcome = .error (.service refusal.shown)) ∨
    (∃ source, (serviceSource token repository answers).outcome = .ok source ∧
      source.IsReported) := by
  rw [serviceSource]
  by_cases ht : token = []
  · exact .inl ⟨.token, by rw [if_pos ht]; rfl⟩
  · by_cases hr : repository = []
    · exact .inl ⟨.repository, by rw [if_neg ht, if_pos hr]; rfl⟩
    · rw [if_neg ht, if_neg hr]
      cases ha : answers.repository with
      | error refusal => exact .inr (.inl ⟨ht, hr, refusal, rfl, rfl⟩)
      | ok answer =>
        refine .inr (.inr ⟨_, rfl, ?_, ?_⟩)
        · exact Service.reports_allTags repository answers
        · exact Service.reports_commitsBetween answers

end BuildTags.Repository
