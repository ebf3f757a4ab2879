import BuildTags.Configuration.Reader
import BuildTags.Proofs.Changelog.History

namespace BuildTags.Configuration

/-- How a document may fail to give a configuration: a command reports it, or the issue pattern
repeats something too often or is nested too deeply. -/
def IsFault (failure : Failure) : Prop :=
  failure.isReported = true ∨ failure = .regex .countTooLarge ∨ failure = .regex .tooDeep

inductive IsAbout (place : Text) : Fault → Prop
  | kind (kind : Kind) : IsAbout place (.wrongKind place kind)
  | names (names : List Text) : IsAbout place (.notOneOf place names)

variable {host : Host} {place name : Text} {members : Members} {names : List Text}
  {default value : Text} {fault : Fault}

theorem IsAbout.isReported (h : IsAbout place fault) :
    (Failure.configuration fault).isReported = true := by
  cases h <;> rfl

theorem isAbout_textOr (h : textOr place members name default = .error fault) :
    IsAbout (dotted place name) fault := by
  unfold textOr at h
  split at h <;> cases h
  exact .kind _

theorem isAbout_flagOrTrue (h : flagOrTrue place members name = .error fault) :
    IsAbout (dotted place name) fault := by
  unfold flagOrTrue at h
  split at h <;> cases h
  exact .kind _

theorem isAbout_text? (h : text? place members name = .error fault) :
    IsAbout (dotted place name) fault := by
  unfold text? at h
  split at h <;> cases h
  exact .kind _

theorem isAbout_whole? (h : whole? place members name = .error fault) :
    IsAbout (dotted place name) fault := by
  unfold whole? at h
  split at h <;> cases h
  exact .kind _

theorem isAbout_list? (h : list? place members name = .error fault) :
    IsAbout (dotted place name) fault := by
  unfold list? at h
  split at h <;> cases h
  exact .kind _

theorem isAbout_nameOr (h : nameOr place members name names default = .error fault) :
    IsAbout (dotted place name) fault := by
  rcases bind_eq_error_iff.1 h with h | ⟨found, -, h⟩
  · exact isAbout_textOr h
  · split at h <;> cases h
    exact .names _

theorem mem_of_nameOr (h : nameOr place members name names default = .ok value) :
    value ∈ names := by
  obtain ⟨found, -, h⟩ := bind_eq_ok_iff.1 h
  split at h
  · rename_i hn
    obtain rfl := Except.ok.inj h
    simpa using hn
  · cases h

theorem isFault_issueFailure (fault : Regex.Fault) : IsFault (issueFailure fault) := by
  cases fault with
  | malformed problem place => exact .inl rfl
  | mixedKinds => exact .inl rfl
  | countTooLarge => exact .inr (.inl rfl)
  | tooDeep => exact .inr (.inr rfl)
  | numeral fault => exact .inl rfl

theorem reports_lift {α : Type} {outcome : Except Fault α}
    (h : ∀ {fault}, outcome = .error fault → IsAbout place fault) :
    Reports (outcome.mapError Failure.configuration) := .mapError_of fun _ hf ↦ (h hf).isReported

theorem reports_tokens? (place : Text) (members : Members) (name : Text) :
    Reports (tokens? place members name) := by
  refine .bind (reports_lift isAbout_list?) fun items _ ↦ ?_
  cases items with
  | none => exact .ok none
  | some items =>
    simp only
    cases texts? items with
    | none => exact .error rfl
    | some descriptors => exact .bind (.mapError fun _ ↦ rfl) fun tokens _ ↦ .ok _

theorem reports_outputOfJson (name : Text) (value : Json.Value) :
    Reports (Output.ofJson name value) := by
  cases value with
  | object members =>
    refine .bind (reports_lift isAbout_nameOr) fun _ _ ↦
      .bind (reports_lift isAbout_nameOr) fun _ _ ↦ .bind (reports_tokens? _ _ _) fun _ _ ↦ ?_
    refine .bind (reports_lift isAbout_flagOrTrue) fun _ _ ↦
      .bind (reports_lift isAbout_flagOrTrue) fun _ _ ↦
      .bind (reports_lift isAbout_flagOrTrue) fun _ _ ↦ ?_
    exact .bind (reports_lift isAbout_whole?) fun _ _ ↦ .bind (reports_lift isAbout_text?) fun _ _ ↦
      .bind (reports_lift isAbout_text?) fun _ _ ↦ .ok _
  | _ => exact .error rfl

theorem reports_outputsOfJson (members : Members) : Reports (outputsOfJson members) := by
  induction members with
  | nil => exact .ok []
  | cons member members ih =>
    exact .bind (reports_outputOfJson _ _) fun _ _ ↦ .bind ih fun _ _ ↦ .ok _

theorem isFault_changelogOfJson (value : Json.Value) :
    FailsOnly IsFault (changelogOfJson value host) := by
  have hlift : ∀ {α : Type} {place : Text} {outcome : Except Fault α},
      (∀ {fault}, outcome = .error fault → IsAbout place fault) →
      FailsOnly IsFault (outcome.mapError Failure.configuration) :=
    fun h ↦ (reports_lift h).mono fun _ ↦ .inl
  cases value with
  | object members =>
    refine .bind (hlift isAbout_textOr) fun _ _ ↦ .bind (.mapError isFault_issueFailure) fun _ _ ↦ ?_
    exact .bind (hlift isAbout_nameOr) fun _ _ ↦ .bind (hlift isAbout_textOr) fun _ _ ↦
      .bind (hlift isAbout_text?) fun _ _ ↦ .ok _
  | _ => exact .error (.inl rfl)

theorem hasFormat_of_changelogOfJson {value : Json.Value} {settings : Changelog.Settings}
    (h : changelogOfJson value host = .ok settings) : settings.HasFormat := by
  cases value with
  | object members =>
    obtain ⟨source, -, h⟩ := bind_eq_ok_iff.1 h
    obtain ⟨issues, -, h⟩ := bind_eq_ok_iff.1 h
    obtain ⟨format, hn, h⟩ := bind_eq_ok_iff.1 h
    obtain ⟨start, -, h⟩ := bind_eq_ok_iff.1 h
    obtain ⟨key, -, h⟩ := bind_eq_ok_iff.1 h
    obtain rfl := Except.ok.inj h
    have hknown : ∀ name ∈ Changelog.LinkFormat.named.map (·.1),
        (Changelog.LinkFormat.ofName? name).isSome = true := by decide
    exact hknown format (mem_of_nameOr (mapError_eq_ok_iff.1 hn))
  | _ => cases h

theorem ofJson_object (members : Members) : ofJson (.object members) host =
    (match Json.member? "outputs" members with
      | none => .ok []
      | some (.object outputs) => outputsOfJson outputs
      | some _ => .error (.configuration (.sectionNotAnObject "outputs"))) >>= fun outputs ↦
    match Json.member? "changelog" members with
    | none => .ok { outputs }
    | some value => (changelogOfJson value host).map fun changelog ↦ { outputs, changelog } := by
  rw [ofJson]
  cases Json.member? "outputs" members with
  | none => cases Json.member? "changelog" members <;> rfl
  | some value =>
    cases value with
    | object outputs =>
      simp only
      cases outputsOfJson outputs with
      | error failure => rfl
      | ok outputs => cases Json.member? "changelog" members <;> rfl
    | _ => rfl

theorem isFault_ofJson (value : Json.Value) : FailsOnly IsFault (ofJson value host) := by
  cases value with
  | object members =>
    rw [ofJson_object]
    refine .bind ?_ fun outputs _ ↦ ?_
    · split
      · exact .ok _
      · exact (reports_outputsOfJson _).mono fun _ ↦ .inl
      · exact .error (.inl rfl)
    · cases Json.member? "changelog" members with
      | none => exact .ok _
      | some value => exact .bind (isFault_changelogOfJson value) fun _ _ ↦ .ok _
  | _ => exact .error (.inl rfl)

theorem hasFormat_of_ofJson {value : Json.Value} {configuration : Configuration}
    (h : ofJson value host = .ok configuration) : configuration.changelog.HasFormat := by
  cases value with
  | object members =>
    rw [ofJson_object] at h
    obtain ⟨outputs, -, h⟩ := bind_eq_ok_iff.1 h
    cases hc : Json.member? "changelog" members with
    | none =>
      rw [hc] at h
      obtain rfl := Except.ok.inj h
      exact Changelog.hasFormat_default
    | some value =>
      rw [hc] at h
      obtain ⟨settings, hs, h⟩ := bind_eq_ok_iff.1 h
      obtain rfl := Except.ok.inj h
      exact hasFormat_of_changelogOfJson hs
  | _ => cases h

theorem isFault_read (path text : Text) :
    FailsOnly (fun failure ↦ IsFault failure ∨ ∃ bound, failure = .configuration (.beyond bound) ∧
      Json.read (some Numeral.maxDigits) text host.deepDocument = .error (.beyond bound))
      (read path text host) := by
  rw [read]
  split
  · exact .error (.inl (.inl rfl))
  · rename_i bound hbound
    exact .error (.inr ⟨bound, rfl, hbound⟩)
  · exact .error (.inl (.inl rfl))
  · exact (isFault_ofJson _).mono fun _ ↦ .inl

theorem hasFormat_of_read {path text : Text} {configuration : Configuration}
    (h : read path text host = .ok configuration) : configuration.changelog.HasFormat := by
  rw [read] at h
  split at h
  · cases h
  · cases h
  · cases h
  · exact hasFormat_of_ofJson h

end BuildTags.Configuration
