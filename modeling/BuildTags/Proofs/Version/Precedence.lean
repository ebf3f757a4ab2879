import BuildTags.Proofs.Version.Flattened
import Mathlib.Data.Prod.Lex
import Mathlib.Order.Defs.LinearOrder

namespace BuildTags.Version

def Leads (version : Text) (major minor : Int) : Prop :=
  ∃ groups, Pattern.IsDotted version groups ∧ LeadsWith groups major minor

/-- The place of a build among others: by the first group of its version, then by the second one, and
then by its number. -/
def place (major minor number : Int) : Lex (Int × Lex (Int × Int)) :=
  toLex (major, toLex (minor, number))

variable {major minor number major' minor' number' : Int} {name version : Text} {build : Build}
  {pattern : Pattern}

theorem place_lt_iff : place major minor number < place major' minor' number' ↔
    major < major' ∨ major = major' ∧ (minor < minor' ∨ minor = minor' ∧ number < number') := by
  rw [place, place, Prod.Lex.toLex_lt_toLex, Prod.Lex.toLex_lt_toLex]

/-- Less than 1000 for the second groups leaves the first ones alone, however large the numbers are. -/
theorem flattened_lt_flattened (h : toLex (major, minor) ≤ toLex (major', minor'))
    (hminor : minor < 1000) (hminor' : 0 ≤ minor') (hnumber : number < number') :
    flattened major minor number < flattened major' minor' number' := by
  rw [Prod.Lex.toLex_le_toLex] at h
  rw [flattened, flattened]
  omega

theorem flattened_lt_iff (hminor : 0 ≤ minor) (hminor' : 0 ≤ minor') (hnumber : 0 ≤ number)
    (hnumber' : 0 ≤ number') (hm : minor < 1000) (hm' : minor' < 1000) (hn : number < 1000)
    (hn' : number' < 1000) : flattened major minor number < flattened major' minor' number' ↔
      place major minor number < place major' minor' number' := by
  rw [place_lt_iff, flattened, flattened]
  omega

theorem flattened_eq_iff (hminor : 0 ≤ minor) (hminor' : 0 ≤ minor') (hnumber : 0 ≤ number)
    (hnumber' : 0 ≤ number') (hm : minor < 1000) (hm' : minor' < 1000) (hn : number < 1000)
    (hn' : number' < 1000) : flattened major minor number = flattened major' minor' number' ↔
      (major, minor, number) = (major', minor', number') := by
  rw [Prod.mk.injEq, Prod.mk.injEq, flattened, flattened]
  omega

theorem nonneg_of_read {group : Text} (hne : group ≠ []) (hd : ∀ c ∈ group, Text.isDigit c = true)
    (h : Numeral.read group = .ok number) : 0 ≤ number := by
  rw [Numeral.read_digits hne hd] at h
  split at h
  · cases h
  · obtain rfl := Except.ok.inj h
    exact Int.natCast_nonneg _

theorem Leads.nonneg (h : Leads version major minor) : 0 ≤ major ∧ 0 ≤ minor := by
  obtain ⟨groups, hd, hl⟩ := h
  have hread : ∀ group ∈ groups, ∀ number, Numeral.read group = .ok number → 0 ≤ number := by
    intro group hm number
    obtain ⟨hne, hdigits⟩ := hd.digits group hm
    exact nonneg_of_read hne hdigits
  cases hl with
  | alone hmajor => exact ⟨hread _ (by simp) _ hmajor, Int.le_refl 0⟩
  | followed hmajor hminor => exact ⟨hread _ (by simp) _ hmajor, hread _ (by simp) _ hminor⟩

theorem Leads.unique (h : Leads version major minor) (h' : Leads version major' minor') :
    major = major' ∧ minor = minor' := by
  obtain ⟨groups, hd, hl⟩ := h
  obtain ⟨groups', hd', hl'⟩ := h'
  obtain rfl : groups = groups' := hd.splitOn_eq.symm.trans hd'.splitOn_eq
  exact hl.unique hl'

theorem exists_flattened_of_read
    (h : pattern.read name = .ok (some (build.version, build.number))) (hs : name.HasShortGroups) :
    ∃ major minor, Leads build.version major minor ∧ 0 ≤ build.number ∧
      (CodeStrategy.ofName? "semantic_flattened").map (CodeStrategy.code build) =
        some (.ok (flattened major minor build.number)) := by
  have hstrategy : CodeStrategy.ofName? "semantic_flattened" = some .semanticFlattened := by decide
  obtain ⟨hversion, hinfix, hnumber⟩ := Pattern.isVersion_of_read h
  have hd := hversion.isDotted
  obtain ⟨major, minor, hl⟩ := exists_leadsWith hd (hs.of_infix hinfix)
  refine ⟨major, minor, ⟨_, hd, hl⟩, hnumber, ?_⟩
  rw [hstrategy, Option.map_some, CodeStrategy.code, majorMinor_eq hd hl]
  rfl

/-- The flattened codes of two builds stand in the order of their versions and numbers: strictly where
the number grows and the version does not fall, as long as the second groups are below 1000, and in
the very order of their places where the numbers are below 1000, too. -/
theorem flattened_orders_builds {pattern pattern' : Pattern} {name name' : Text} {build build' : Build}
    (h : pattern.read name = .ok (some (build.version, build.number)))
    (h' : pattern'.read name' = .ok (some (build'.version, build'.number)))
    (hs : name.HasShortGroups) (hs' : name'.HasShortGroups) :
    ∃ major minor major' minor' code code',
      Leads build.version major minor ∧ Leads build'.version major' minor' ∧
      (CodeStrategy.ofName? "semantic_flattened").map (CodeStrategy.code build) = some (.ok code) ∧
      (CodeStrategy.ofName? "semantic_flattened").map (CodeStrategy.code build') = some (.ok code') ∧
      (minor < 1000 → minor' < 1000 →
        (toLex (major, minor) ≤ toLex (major', minor') → build.number < build'.number →
          code < code') ∧
        (build.number < 1000 → build'.number < 1000 →
          (code < code' ↔ place major minor build.number < place major' minor' build'.number) ∧
          (code = code' ↔
            (major, minor, build.number) = (major', minor', build'.number)))) := by
  obtain ⟨major, minor, hl, hnumber, hcode⟩ := exists_flattened_of_read h hs
  obtain ⟨major', minor', hl', hnumber', hcode'⟩ := exists_flattened_of_read h' hs'
  have hminor := hl.nonneg.2
  have hminor' := hl'.nonneg.2
  refine ⟨major, minor, major', minor', _, _, hl, hl', hcode, hcode', fun hm hm' ↦ ⟨?_, ?_⟩⟩
  · intro hle hlt
    exact flattened_lt_flattened hle hm hminor' hlt
  · intro hn hn'
    exact ⟨flattened_lt_iff hminor hminor' hnumber hnumber' hm hm' hn hn',
      flattened_eq_iff hminor hminor' hnumber hnumber' hm hm' hn hn'⟩

/-- The first group decides, whether or not there is a second one, and however its digits are written:
a lower number under a higher version has the higher code. -/
theorem higher_version_higher_code :
    ∃ pattern pattern' : Pattern,
      Pattern.ofTokens none "debug" = .ok pattern ∧
      Pattern.ofTokens (some [.buildVersion, .separator "-", .buildVariantName]) "debug" =
        .ok pattern' ∧
      pattern.read "v01.٢.9-debug" = .ok (some ("01.٢", 9)) ∧
      pattern'.read "2-debug007" = .ok (some ("2", 7)) ∧
      Text.HasShortGroups "v01.٢.9-debug" ∧ Text.HasShortGroups "2-debug007" ∧
      ∃ code code',
        (CodeStrategy.ofName? "semantic_flattened").map
          (CodeStrategy.code ⟨"v01.٢.9-debug", "c1", [], "01.٢", "debug", 9⟩) = some (.ok code) ∧
        (CodeStrategy.ofName? "semantic_flattened").map
          (CodeStrategy.code ⟨"2-debug007", "c2", [], "2", "debug", 7⟩) = some (.ok code') ∧
        code < code' := by
  let pattern : Pattern := ⟨Pattern.defaultTokens, "debug", by decide, by decide, by decide⟩
  let pattern' : Pattern := ⟨[.buildVersion, .separator "-", .buildVariantName], "debug", by decide,
    by decide, by decide⟩
  have hread : pattern.read "v01.٢.9-debug" = .ok (some ("01.٢", 9)) := by decide
  have hread' : pattern'.read "2-debug007" = .ok (some ("2", 7)) := by decide
  have hs : Text.HasShortGroups "v01.٢.9-debug" := Text.hasShortGroups_of_length_le (by decide)
  have hs' : Text.HasShortGroups "2-debug007" := Text.hasShortGroups_of_length_le (by decide)
  obtain ⟨major, minor, major', minor', code, code', hl, hl', hcode, hcode', horder⟩ :=
    @flattened_orders_builds pattern pattern' _ _ ⟨"v01.٢.9-debug", "c1", [], "01.٢", "debug", 9⟩
      ⟨"2-debug007", "c2", [], "2", "debug", 7⟩ hread hread' hs hs'
  have hleads : Leads "01.٢" 1 2 := ⟨["01", "٢"], by decide, .followed (by decide) (by decide)⟩
  have hleads' : Leads "2" 2 0 := ⟨["2"], by decide, .alone (by decide)⟩
  obtain ⟨rfl, rfl⟩ := hl.unique hleads
  obtain ⟨rfl, rfl⟩ := hl'.unique hleads'
  refine ⟨pattern, pattern', rfl, rfl, hread, hread', hs, hs', code, code', hcode, hcode', ?_⟩
  obtain ⟨-, hplace⟩ := horder (by decide) (by decide)
  exact (hplace (by decide) (by decide)).1.2 (place_lt_iff.2 (.inl (by decide)))

end BuildTags.Version
