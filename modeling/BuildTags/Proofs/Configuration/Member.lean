import BuildTags.Configuration.Reader
import BuildTags.Proofs.Pattern.Descriptor
import Mathlib

namespace BuildTags

namespace Changelog.IssuePattern

variable {source : Text} {host : Host} {issues : IssuePattern}

theorem source_of_read (h : read source host = .ok issues) : issues.source = source := by
  rw [read] at h
  split at h
  · cases h
  · split at h <;> cases h
    rfl

theorem read_of_regex (hd : host.deepExpression issues.source = false)
    (hr : Regex.read issues.source host.named = .ok issues.regex) :
    read issues.source host = .ok issues := by
  rw [read, hd, if_neg Bool.false_ne_true]
  split
  · rename_i regex h
    cases hr.symm.trans h
    rfl
  · rename_i fault h
    cases hr.symm.trans h

/-- The usual issue numbers can be read everywhere: they name no character and have no groups. -/
theorem read_keyAndNumber (host : Host) : read keyAndNumber.source host = .ok keyAndNumber := by
  have hread : ∀ named, Regex.read keyAndNumber.source named = .ok keyAndNumber.regex := by
    intro named
    cbv
  exact read_of_regex (host.flat_expression _ (by decide)) (hread host.named)

end Changelog.IssuePattern

namespace Configuration

section

variable {α : Type}

/-- Whether an object has no member of a name, or one that is as asked for. -/
def Fits (members : Members) (name : Text) (P : Json.Value → Prop) : Prop :=
  ∀ value ∈ Json.member? name members, P value

/-- What an object gives under a name: what its member stands for, or else the default. -/
inductive Gives (members : Members) (name : Text) (StandsFor : Json.Value → α → Prop) (default : α) :
    α → Prop
  | missing (h : Json.member? name members = none) : Gives members name StandsFor default default
  | given {value : Json.Value} {a : α} (h : Json.member? name members = some value)
      (hs : StandsFor value a) : Gives members name StandsFor default a

def OrNull (StandsFor : Json.Value → α → Prop) (value : Json.Value) : Option α → Prop
  | none => value = .null
  | some a => StandsFor value a

variable {members : Members} {name : Text} {StandsFor : Json.Value → α → Prop} {default a : α}
  {value : Json.Value}

theorem gives_iff_of_none (h : Json.member? name members = none) :
    Gives members name StandsFor default a ↔ default = a := by
  constructor
  · rintro (- | ⟨hg, -⟩)
    · rfl
    · cases h.symm.trans hg
  · rintro rfl
    exact .missing h

theorem gives_iff_of_some (h : Json.member? name members = some value) :
    Gives members name StandsFor default a ↔ StandsFor value a := by
  constructor
  · rintro (hn | ⟨hg, hs⟩)
    · cases h.symm.trans hn
    · cases h.symm.trans hg
      exact hs
  · exact .given h

theorem fits_congr {P Q : Json.Value → Prop} (h : ∀ value, P value ↔ Q value) :
    Fits members name P ↔ Fits members name Q :=
  forall₂_congr fun value _ ↦ h value

theorem exists_gives_iff :
    (∃ a, Gives members name StandsFor default a) ↔
      Fits members name fun value ↦ ∃ a, StandsFor value a := by
  cases h : Json.member? name members with
  | none => simp [gives_iff_of_none h, Fits, h]
  | some value => simp [gives_iff_of_some h, Fits, h]

theorem Gives.congr {members' : Members} (h : Gives members name StandsFor default a)
    (he : Json.member? name members = Json.member? name members') :
    Gives members' name StandsFor default a := by
  obtain hn | ⟨hg, hs⟩ := h
  · exact .missing (he.symm.trans hn)
  · exact .given (he.symm.trans hg) hs

end

section

variable {members members' : Members} {name : Text} {value : Json.Value}

theorem mem_of_member? (h : Json.member? name members = some value) : (name, value) ∈ members :=
  mem_of_find?_key h

theorem member?_eq_none_iff :
    Json.member? name members = none ↔ ∀ member ∈ members, member.1 ≠ name := by
  simp [Json.member?]

theorem member?_eq_some_iff (hd : (members.map (·.1)).Nodup) :
    Json.member? name members = some value ↔ (name, value) ∈ members := by
  refine ⟨mem_of_member?, fun hm ↦ ?_⟩
  have hsome : (Json.member? name members).isSome = true := by
    rw [Json.member?, Option.isSome_map, List.find?_isSome]
    exact ⟨_, hm, decide_eq_true rfl⟩
  obtain ⟨value', hv⟩ := Option.isSome_iff_exists.1 hsome
  obtain ⟨-, rfl⟩ := Prod.mk.inj (List.inj_on_of_nodup_map hd (mem_of_member? hv) hm rfl)
  exact hv

/-- Neither the order of members nor members of other names change what is found under a name. -/
theorem member?_of_perm (others : Members) (hd : (members'.map (·.1)).Nodup)
    (h : members'.Perm (members ++ others))
    (ho : ∀ member ∈ others, member.1 ≠ name) :
    Json.member? name members = Json.member? name members' := by
  have hmap := (h.map (·.1)).nodup hd
  rw [List.map_append] at hmap
  have hd' := List.Nodup.of_append_left hmap
  ext value
  rw [member?_eq_some_iff hd', member?_eq_some_iff hd, h.mem_iff, List.mem_append]
  constructor
  · exact .inl
  · rintro (hm | hm)
    · exact hm
    · exact absurd rfl (ho _ hm)

end

def IsFlag (value : Json.Value) (flag : Bool) : Prop := value = .bool flag

def IsWhole (value : Json.Value) (number : Int) : Prop := value = .whole number

def IsText (value : Json.Value) (text : Text) : Prop := value = .text text

def IsNameOf (names : List Text) (value : Json.Value) (name : Text) : Prop :=
  value = .text name ∧ name ∈ names

def IsTokens (value : Json.Value) (tokens : List Pattern.Token) : Prop :=
  ∃ descriptors, value = .list (descriptors.map .text) ∧
    List.Forall₂ (fun descriptor token ↦ Pattern.Token.read descriptor = .ok token) descriptors tokens

def IsIssues (host : Host) (value : Json.Value) (issues : Changelog.IssuePattern) : Prop :=
  value = .text issues.source ∧ Changelog.IssuePattern.read issues.source host = .ok issues

/-- A key, where the empty one stands for none. -/
def IsKey (value : Json.Value) (key : Option Text) : Prop :=
  ∃ text, OrNull IsText value text ∧ key = text.filter (· ≠ [])

section

variable {place name : Text} {members : Members}

theorem textOr_eq_ok_iff {default text : Text} :
    textOr place members name default = .ok text ↔ Gives members name IsText default text := by
  rw [textOr]
  cases h : Json.member? name members with
  | none => simp [gives_iff_of_none h]
  | some value =>
    rw [gives_iff_of_some h]
    cases value <;> simp [IsText]

theorem flagOrTrue_eq_ok_iff {flag : Bool} :
    flagOrTrue place members name = .ok flag ↔ Gives members name IsFlag true flag := by
  rw [flagOrTrue]
  cases h : Json.member? name members with
  | none => simp [gives_iff_of_none h]
  | some value =>
    rw [gives_iff_of_some h]
    cases value <;> simp [IsFlag]

theorem text?_eq_ok_iff {text : Option Text} :
    text? place members name = .ok text ↔ Gives members name (OrNull IsText) none text := by
  rw [text?]
  cases h : Json.member? name members with
  | none => simp [gives_iff_of_none h]
  | some value =>
    rw [gives_iff_of_some h]
    cases value <;> cases text <;> simp [OrNull, IsText]

theorem whole?_eq_ok_iff {number : Option Int} :
    whole? place members name = .ok number ↔ Gives members name (OrNull IsWhole) none number := by
  rw [whole?]
  cases h : Json.member? name members with
  | none => simp [gives_iff_of_none h]
  | some value =>
    rw [gives_iff_of_some h]
    cases value <;> cases number <;> simp [OrNull, IsWhole]

theorem nameOr_eq_ok_iff {names : List Text} {default found : Text} (hd : default ∈ names) :
    nameOr place members name names default = .ok found ↔
      Gives members name (IsNameOf names) default found := by
  have hcheck : nameOr place members name names default = .ok found ↔
      textOr place members name default = .ok found ∧ found ∈ names := by
    rw [nameOr, bind_eq_ok_iff]
    constructor
    · rintro ⟨value, hv, h⟩
      split at h
      · rename_i hn
        cases h
        exact ⟨hv, by simpa using hn⟩
      · cases h
    · rintro ⟨h, hn⟩
      exact ⟨found, h, if_pos (by simpa using hn)⟩
  rw [hcheck, textOr_eq_ok_iff]
  cases h : Json.member? name members with
  | none =>
    rw [gives_iff_of_none h, gives_iff_of_none h]
    exact and_iff_left_of_imp fun he ↦ he ▸ hd
  | some value => rw [gives_iff_of_some h, gives_iff_of_some h, IsText, IsNameOf]

theorem texts?_eq_some_iff {items : List Json.Value} {texts : List Text} :
    texts? items = some texts ↔ items = texts.map .text := by
  induction items generalizing texts with
  | nil => cases texts <;> simp [texts?]
  | cons item items ih =>
    cases item with
    | text value =>
      rw [texts?, Option.map_eq_some_iff]
      cases texts with
      | nil => simp
      | cons text texts => simp [ih, and_comm]
    | _ => cases texts <;> simp [texts?]

theorem isTokens_list_iff {items : List Json.Value} {tokens : List Pattern.Token} :
    IsTokens (.list items) tokens ↔
      ∃ descriptors, texts? items = some descriptors ∧ Pattern.readTokens descriptors = .ok tokens := by
  simp only [IsTokens, Json.Value.list.injEq, texts?_eq_some_iff, Pattern.readTokens_eq_ok_iff]

theorem tokens?_eq_ok_iff {tokens : Option (List Pattern.Token)} :
    tokens? place members name = .ok tokens ↔ Gives members name (OrNull IsTokens) none tokens := by
  have hnone : (Except.ok none : Except Failure _) = .ok tokens ↔ none = tokens := by simp
  rw [tokens?, list?]
  cases h : Json.member? name members with
  | none =>
    rw [gives_iff_of_none h]
    exact hnone
  | some value =>
    rw [gives_iff_of_some h]
    cases value with
    | null =>
      refine hnone.trans ?_
      cases tokens <;> simp [OrNull, IsTokens]
    | list items =>
      rw [mapError_ok, ok_bind]
      cases ht : texts? items with
      | none => cases tokens <;> simp [OrNull, isTokens_list_iff, ht]
      | some descriptors =>
        simp only [ht]
        change ((Pattern.readTokens descriptors).mapError Failure.pattern >>= fun tokens ↦
          Except.ok (some tokens)) = _ ↔ _
        rw [bind_eq_ok_iff]
        simp only [mapError_eq_ok_iff, Except.ok.injEq]
        cases tokens <;> simp [OrNull, isTokens_list_iff, ht]
    | _ => cases tokens <;> simp [OrNull, IsTokens]

theorem exists_read_eq_ok_iff {host : Host} {issues default : Changelog.IssuePattern}
    (hd : Changelog.IssuePattern.read default.source host = .ok default) :
    (∃ source, textOr place members name default.source = .ok source ∧
        Changelog.IssuePattern.read source host = .ok issues) ↔
      Gives members name (IsIssues host) default issues := by
  simp only [textOr_eq_ok_iff]
  cases h : Json.member? name members with
  | none =>
    simp only [gives_iff_of_none h]
    constructor
    · rintro ⟨source, rfl, hr⟩
      exact Except.ok.inj (hd.symm.trans hr)
    · rintro rfl
      exact ⟨_, rfl, hd⟩
  | some value =>
    simp only [gives_iff_of_some h, IsText, IsIssues]
    constructor
    · rintro ⟨source, rfl, hr⟩
      obtain rfl := Changelog.IssuePattern.source_of_read hr
      exact ⟨rfl, hr⟩
    · rintro ⟨rfl, hr⟩
      exact ⟨_, rfl, hr⟩

theorem exists_text?_eq_ok_iff {key : Option Text} :
    (∃ text, text? place members name = .ok text ∧ key = text.filter (· ≠ [])) ↔
      Gives members name IsKey none key := by
  simp only [text?_eq_ok_iff]
  cases h : Json.member? name members with
  | none =>
    simp only [gives_iff_of_none h]
    constructor
    · rintro ⟨text, rfl, rfl⟩
      rfl
    · rintro rfl
      exact ⟨none, rfl, rfl⟩
  | some value => simp only [gives_iff_of_some h, IsKey]

end

end Configuration

end BuildTags
