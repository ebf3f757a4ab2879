import BuildTags.Proofs.List
import BuildTags.Proofs.Pattern.Group
import BuildTags.Proofs.Version.Search

namespace BuildTags

namespace Pattern

variable {version name : Text} {groups : List Text}

theorem isVersion_of_mem_groups (h : IsVersion (['.'].intercalate groups)) :
    ∀ group ∈ groups, IsVersion group := by
  induction groups with
  | nil => nofun
  | cons group groups ih =>
    cases groups with
    | nil =>
      rw [List.intercalate_singleton] at h
      simpa using h
    | cons next groups =>
      rw [List.intercalate_cons_cons, List.append_assoc, List.singleton_append,
        isVersion_append_dot_iff] at h
      exact List.forall_mem_cons.2 ⟨h.1, ih h.2⟩

/-- Whether a version is made of groups of digits, none of them empty, with a dot between two of
them. -/
structure IsDotted (version : Text) (groups : List Text) : Prop where
  text_eq : version = ['.'].intercalate groups
  ne_nil : groups ≠ []
  digits : ∀ group ∈ groups, group ≠ [] ∧ ∀ c ∈ group, Text.isDigit c = true

instance (version : Text) (groups : List Text) : Decidable (IsDotted version groups) :=
  haveI (group : Text) : Decidable (∀ c ∈ group, Text.isDigit c = true) :=
    List.decidableBAll (fun c ↦ Text.isDigit c = true) group
  decidable_of_iff (version = ['.'].intercalate groups ∧ groups ≠ [] ∧
      ∀ group ∈ groups, group ≠ [] ∧ ∀ c ∈ group, Text.isDigit c = true)
    ⟨fun ⟨htext, hne, hdigits⟩ ↦ ⟨htext, hne, hdigits⟩,
      fun h ↦ ⟨h.text_eq, h.ne_nil, h.digits⟩⟩

theorem IsVersion.isDotted (h : IsVersion version) : IsDotted version (version.splitOn '.') where
  text_eq := (List.intercalate_splitOn '.').symm
  ne_nil := List.splitOn_ne_nil '.' version
  digits := by
    intro group hm
    have hgroup : IsVersion group := by
      have hgroups : IsVersion (['.'].intercalate (version.splitOn '.')) := by
        rw [List.intercalate_splitOn]
        exact h
      exact isVersion_of_mem_groups hgroups group hm
    refine ⟨hgroup.ne_nil, ?_⟩
    intro c hc
    apply (hgroup.isDigit_or_eq hc).resolve_right
    rintro rfl
    exact Text.notMem_of_mem_splitOn hm hc

theorem IsDotted.splitOn_eq (h : IsDotted version groups) : version.splitOn '.' = groups := by
  rw [h.text_eq]
  apply List.splitOn_intercalate
  · intro group hm
    exact notMem_of_isDigit (h.digits group hm).2 isDigit_dot
  · exact h.ne_nil

theorem IsDotted.exists_read (h : IsDotted version groups) (hs : version.HasShortGroups) :
    ∀ group ∈ groups, ∃ number, Numeral.read group = .ok number := by
  intro group hm
  obtain ⟨hne, hdigits⟩ := h.digits group hm
  have hinfix : group <:+: version := by
    rw [← h.splitOn_eq] at hm
    exact Text.infix_of_mem_splitOn hm
  have hlength := hs group hinfix hdigits
  exact ⟨_, (Numeral.read_digits hne hdigits).trans (if_neg (Nat.not_lt.2 hlength))⟩

theorem isVersion_of_parts? {pattern : Pattern} {parts : Parts}
    (h : pattern.parts? name = some parts) :
    IsVersion parts.version ∧ parts.version <:+: name := by
  obtain ⟨cut, hc, hp⟩ := parts?_eq_some_iff.1 h
  obtain ⟨version, hv, hnumber⟩ := cut_parts?_eq_some_iff.1 hp
  obtain ⟨before, after, rfl, -, hversion⟩ := (isFirst_of_firstCut? hc).1.exists_of_version? hv
  have hinfix : version.text <:+: before ++ (version.text ++ after) :=
    (List.prefix_append _ after).isInfix.trans (List.suffix_append before _).isInfix
  rcases hnumber with ⟨-, hwhole⟩ | ⟨-, hcut, -⟩
  · rw [hwhole]
    exact ⟨hversion, hinfix⟩
  · obtain ⟨htext, hhead, -, -⟩ := cutLast?_version hversion hcut
    refine ⟨hhead, List.IsInfix.trans ?_ hinfix⟩
    rw [htext]
    exact (List.prefix_append _ _).isInfix

end Pattern

namespace Version

/-- Whether two numbers are those of the first two groups of a version. A version of one group has
zero for the second one. -/
inductive LeadsWith : List Text → Int → Int → Prop
  | alone {group : Text} {major : Int} (h : Numeral.read group = .ok major) :
      LeadsWith [group] major 0
  | followed {first second : Text} {groups : List Text} {major minor : Int}
      (h : Numeral.read first = .ok major) (h' : Numeral.read second = .ok minor) :
      LeadsWith (first :: second :: groups) major minor

theorem majorMinor_eq {version : Text} {groups : List Text} {major minor : Int}
    (hd : Pattern.IsDotted version groups) (h : LeadsWith groups major minor) :
    majorMinor version = .ok (major, minor) := by
  rw [majorMinor, hd.splitOn_eq]
  cases h with
  | alone h =>
    have hne := (hd.digits _ List.mem_cons_self).1
    simp only [if_neg hne, h, ok_bind]
    rfl
  | followed h h' =>
    have hne := (hd.digits _ List.mem_cons_self).1
    simp only [if_neg hne, h, h', ok_bind]
    rfl

theorem exists_leadsWith {version : Text} {groups : List Text}
    (h : Pattern.IsDotted version groups) (hs : version.HasShortGroups) :
    ∃ major minor, LeadsWith groups major minor := by
  have hread := h.exists_read hs
  cases groups with
  | nil => exact absurd rfl h.ne_nil
  | cons first groups =>
    obtain ⟨⟨major, hmajor⟩, hrest⟩ := List.forall_mem_cons.1 hread
    cases groups with
    | nil => exact ⟨major, 0, .alone hmajor⟩
    | cons second groups =>
      obtain ⟨⟨minor, hminor⟩, -⟩ := List.forall_mem_cons.1 hrest
      exact ⟨major, minor, .followed hmajor hminor⟩

/-- Whether a code has three places for the build number, three for the second group of a version,
and the first group in front of them. -/
def IsFlattened (version : Text) (number code : Int) : Prop :=
  ∃ groups major minor, Pattern.IsDotted version groups ∧ LeadsWith groups major minor ∧
    code = (major * 1000 + minor) * 1000 + number

inductive Codes (build : Build) : (strategy : Text) → (code : Int) → Prop
  | number : Codes build "build_number" build.number
  | flattened {code : Int} (h : IsFlattened build.version build.number code) :
      Codes build "semantic_flattened" code

/-- Whether a text is the version name of a build by the strategy of a name. The number of the build
stands in it in decimal digits. -/
inductive Names (build : Build) : (strategy : Text) → (name : Text) → Prop
  | tag : Names build "tag_name" build.name
  | version : Names build "build_version" build.version
  | number {n : Nat} (h : build.number = n) :
      Names build "build_version_number" (build.version ++ '.' :: Nat.toDigits 10 n)
  | variant : Names build "build_version_variant" (build.version ++ '-' :: build.variant)
  | numberVariant {n : Nat} (h : build.number = n) :
      Names build "build_version_number_variant"
        (build.version ++ '.' :: Nat.toDigits 10 n ++ '-' :: build.variant)

structure Stamp.IsOf (settings : Settings) (build : Build) (stamp : Stamp) : Prop where
  code : ∃ code, stamp.code = some code ∧ Codes build settings.codeStrategy code
  name : ∃ name, stamp.name = some name ∧ Names build settings.nameStrategy name
  build : stamp.build = some build

theorem Codes.isFlattened {build : Build} {strategy : Text} {code : Int}
    (h : Codes build strategy code) (hs : strategy = "semantic_flattened") :
    IsFlattened build.version build.number code := by
  cases h with
  | number => exact absurd hs (by decide)
  | flattened h => exact h

structure Settings.IsKnown (settings : Settings) : Prop where
  code : (CodeStrategy.ofName? settings.codeStrategy).isSome = true
  name : (NameStrategy.ofName? settings.nameStrategy).isSome = true

end Version

structure Build.IsSmall (build : Build) : Prop where
  version : ∃ groups major minor, Pattern.IsDotted build.version groups ∧
    Version.LeadsWith groups major minor
  number : ∃ n : Nat, build.number = n ∧ (Nat.toDigits 10 n).length ≤ Numeral.maxDigits

theorem Build.isSmall_stub (variant : Text) : (stub variant).IsSmall where
  version := by
    have hdotted : Pattern.IsDotted "0.0" ["0", "0"] := by decide
    exact ⟨["0", "0"], 0, 0, hdotted, .followed (by decide) (by decide)⟩
  number := ⟨1, rfl, by decide⟩

theorem Build.isSmall_ofMatch {pattern : Pattern} {tag : Tag} {found : Match}
    (h : Match.ofTag? pattern tag = some found) (hs : tag.name.HasShortGroups) (variant : Text) :
    (ofMatch found variant).IsSmall := by
  obtain ⟨-, hread⟩ := Match.ofTag?_eq_some_iff.1 h
  obtain ⟨parts, hparts, hversion, hlength, hnumber⟩ := Pattern.read_eq_ok_some_iff.1 hread
  constructor
  · obtain ⟨hv, hinfix⟩ := Pattern.isVersion_of_parts? hparts
    rw [hversion] at hv hinfix
    obtain ⟨major, minor, hl⟩ := Version.exists_leadsWith hv.isDotted (hs.of_infix hinfix)
    exact ⟨_, major, minor, hv.isDotted, hl⟩
  · exact ⟨_, hnumber.symm, Numeral.length_toDigits_valueOf_le hlength⟩

namespace Version

variable {settings : Settings} {build : Build} {variant name : Text}

theorem exists_code (hb : build.IsSmall) {strategy : CodeStrategy}
    (h : CodeStrategy.ofName? name = some strategy) :
    ∃ code, strategy.code build = .ok code ∧ Codes build name code := by
  obtain ⟨groups, major, minor, hd, hl⟩ := hb.version
  have hflattened : CodeStrategy.semanticFlattened.code build =
      .ok ((major * 1000 + minor) * 1000 + build.number) := by
    rw [CodeStrategy.code, majorMinor_eq hd hl]
    rfl
  rcases mem_of_find?_key h with - | ⟨-, - | ⟨-, ⟨⟩⟩⟩
  · exact ⟨_, rfl, .number⟩
  · exact ⟨_, hflattened, .flattened ⟨groups, major, minor, hd, hl, rfl⟩⟩

theorem exists_name (hb : build.IsSmall) {strategy : NameStrategy}
    (h : NameStrategy.ofName? name = some strategy) :
    ∃ text, strategy.name build = .ok text ∧ Names build name text := by
  obtain ⟨n, hn, hlength⟩ := hb.number
  have hwrite : Numeral.write build.number = .ok (Nat.toDigits 10 n) := by
    rw [hn, Numeral.write_natCast, if_neg (Nat.not_lt.2 hlength)]
  have hnumber : NameStrategy.versionNumber.name build =
      .ok (build.version ++ '.' :: Nat.toDigits 10 n) := by
    rw [NameStrategy.name, hwrite]
    rfl
  have hboth : NameStrategy.versionNumberVariant.name build =
      .ok (build.version ++ '.' :: Nat.toDigits 10 n ++ '-' :: build.variant) := by
    rw [NameStrategy.name, hwrite]
    rfl
  rcases mem_of_find?_key h with - | ⟨-, - | ⟨-, - | ⟨-, - | ⟨-, - | ⟨-, ⟨⟩⟩⟩⟩⟩⟩
  · exact ⟨_, rfl, .version⟩
  · exact ⟨_, hnumber, .number hn⟩
  · exact ⟨_, hboth, .numberVariant hn⟩
  · exact ⟨_, rfl, .variant⟩
  · exact ⟨_, rfl, .tag⟩

theorem exists_ofBuild (hk : settings.IsKnown) (hb : build.IsSmall) :
    ∃ stamp, Stamp.ofBuild build settings = .ok stamp ∧ stamp.IsOf settings build := by
  obtain ⟨codeStrategy, hcodeStrategy⟩ := Option.isSome_iff_exists.1 hk.code
  obtain ⟨nameStrategy, hnameStrategy⟩ := Option.isSome_iff_exists.1 hk.name
  obtain ⟨code, hcode, hcodes⟩ := exists_code hb hcodeStrategy
  obtain ⟨name, hname, hnames⟩ := exists_name hb hnameStrategy
  exact ⟨⟨some code, some name, some build⟩, Stamp.ofBuild_eq_ok_iff.2
    ⟨codeStrategy, nameStrategy, code, name, hcodeStrategy, hnameStrategy, hcode, hname, rfl⟩,
    ⟨code, rfl, hcodes⟩, ⟨name, rfl, hnames⟩, rfl⟩

end Version

end BuildTags
