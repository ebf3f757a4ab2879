import BuildTags.Proofs.Pattern.Group
import BuildTags.Proofs.Version.Search

namespace BuildTags

namespace Traced

variable {α β : Type} {first : Traced α} {next : α → Traced β} {a : α} {failure : Failure}

def requests (traced : Traced α) : List Repository.Request := traced.events.filterMap Event.request?

theorem requests_notes (lines : List Note) : (notes lines).requests = [] := by
  rw [requests, List.filterMap_eq_nil_iff]
  intro event he
  obtain ⟨line, -, rfl⟩ := List.mem_map.1 he
  rfl

theorem requests_bind_of_ok (h : first.outcome = .ok a) :
    (first >>= next).requests = first.requests ++ (next a).requests := by
  show (bind first next).requests = _
  rw [bind, h]
  exact List.filterMap_append

theorem requests_bind_of_error (h : first.outcome = .error failure) :
    (first >>= next).requests = first.requests := by
  show (bind first next).requests = _
  rw [bind, h]
  rfl

theorem requests_bind_of_silent (h : ∀ a, (next a).requests = []) :
    (first >>= next).requests = first.requests := by
  cases ho : first.outcome with
  | ok a => rw [requests_bind_of_ok ho, h, List.append_nil]
  | error failure => exact requests_bind_of_error ho

theorem outcome_recover_congr {first second : Traced α} (h : first.outcome = second.outcome)
    (handler : Failure → Option (Traced α)) :
    (first.recover handler).outcome = (second.recover handler).outcome := by
  rw [recover, recover, h]
  cases ho : second.outcome with
  | ok a => rw [h, ho]
  | error failure =>
    simp only
    cases handler failure with
    | none => rw [h, ho]
    | some rest => rfl

end Traced

namespace Pattern

variable {β : Type} {tokens : Option (List Token)} {variant : Text} {pattern : Pattern}
  {next : Pattern → Traced β}

theorem requests_prepare (tokens : Option (List Token)) (variant : Text) :
    (prepare tokens variant).requests = [] := by
  rw [prepare, Traced.requests_bind_of_silent]
  · rfl
  · intro pattern
    rw [Traced.requests_bind_of_silent fun _ ↦ rfl, Traced.requests_notes]

theorem requests_prepare_bind_of_ok (hp : ofTokens tokens variant = .ok pattern) :
    (prepare tokens variant >>= next).requests = (next pattern).requests := by
  have hprepare : (prepare tokens variant).outcome = .ok pattern := by
    rw [outcome_prepare, hp, mapError_ok]
  rw [Traced.requests_bind_of_ok hprepare, requests_prepare, List.nil_append]

theorem requests_prepare_bind_of_error {fault : Fault}
    (hp : ofTokens tokens variant = .error fault) :
    (prepare tokens variant >>= next).requests = [] := by
  have hprepare : (prepare tokens variant).outcome = .error (.pattern fault) := by
    rw [outcome_prepare, hp, mapError_error]
  rw [Traced.requests_bind_of_error hprepare, requests_prepare]

end Pattern

theorem Match.requests_search (pattern : Pattern) (tags : List Tag) :
    (search pattern tags).requests = [] :=
  Traced.requests_notes (searchNotes pattern tags)

theorem Match.requests_searchLatest (pattern : Pattern) (tags : List Tag) :
    (searchLatest pattern tags).requests = [] := by
  rw [searchLatest, Traced.requests_bind_of_silent, requests_search]
  intro found
  rw [Traced.requests_bind_of_silent fun _ ↦ rfl, Traced.requests_notes]

theorem Snapshot.requests_search (pattern : Pattern) (tags : List Tag) :
    (search pattern tags).requests = [] := by
  rw [search, Traced.requests_bind_of_silent, Match.requests_search]
  intro found
  rw [Traced.requests_bind_of_silent fun _ ↦ rfl, Traced.requests_notes]

namespace Repository.Source

/-- The source whose calls are written down and answered as by another one. -/
def recorded (source : Source) : Source where
  allTags := do
    Traced.request .allTags
    Traced.of source.allTags.outcome
  commitsBetween after upTo := do
    Traced.request (.commitsBetween after upTo)
    Traced.of (source.commitsBetween after upTo).outcome

def HasShortGroups (source : Source) : Prop :=
  ∀ tags, source.allTags.outcome = .ok tags → ∀ tag ∈ tags, tag.name.HasShortGroups

variable (source : Source) (after : Option Text) (upTo : Text)

theorem outcome_allTags_recorded : source.recorded.allTags.outcome = source.allTags.outcome := rfl

theorem requests_allTags_recorded : source.recorded.allTags.requests = [.allTags] := rfl

theorem requests_commitsBetween_recorded :
    (source.recorded.commitsBetween after upTo).requests = [.commitsBetween after upTo] := rfl

end Repository.Source

end BuildTags
