import BuildTags.Build.Successor
import BuildTags.Proofs.Pattern.Default
import BuildTags.Proofs.Pattern.Number

namespace BuildTags.Pattern

variable {variant name before version after : Text}

/-- A version that begins earlier than another one, before a dash each, either takes in the other one
or ends, with its dash, before the other one begins. -/
theorem version_append_cases {before' version' after' : Text} (hv : IsVersion version)
    (hv' : IsVersion version') (hlt : before'.length < before.length)
    (h : before ++ (version ++ '-' :: after) = before' ++ (version' ++ '-' :: after')) :
    (∃ more, before = before' ++ more ∧ version' = more ++ version ∧ after' = after) ∨
      ∃ between, before = before' ++ (version' ++ '-' :: between) ∧
        after' = between ++ (version ++ '-' :: after) := by
  have hd := hv.notMem isDigit_dash (by decide)
  have hd' := hv'.notMem isDigit_dash (by decide)
  obtain ⟨more, rfl, he⟩ | ⟨more, rfl, he⟩ := List.append_eq_append_iff.1 h
  · rw [List.length_append] at hlt
    omega
  · by_cases hm : '-' ∈ more
    · obtain ⟨first, between, rfl, hf⟩ := List.eq_append_cons_of_mem hm
      rw [List.append_assoc] at he
      obtain ⟨rfl, rfl⟩ := Text.append_cons_inj hd' hf he
      exact .inr ⟨between, rfl, rfl⟩
    · rw [← List.append_assoc] at he
      obtain ⟨rfl, rfl⟩ := Text.append_cons_inj hd' (by simp [hm, hd]) he
      exact .inl ⟨more, rfl, rfl, rfl⟩

theorem ReadsFirst.replace_digits {digits number rest : Text}
    (h : ReadsFirst variant name before version (digits ++ rest))
    (hd : ∀ c ∈ digits, Text.isDigit c = true) (hn : ∀ c ∈ number, Text.isDigit c = true) :
    ReadsFirst variant (before ++ (version ++ '-' :: (variant ++ (number ++ rest)))) before version
      (number ++ rest) := by
  obtain ⟨⟨rfl, noDot, isVersion, oneLine⟩, hmin⟩ := h
  have hrest : '\n' ∉ rest := fun hm ↦ oneLine (List.mem_append_right _ hm)
  refine ⟨⟨rfl, noDot, isVersion, by simp [newline_notMem hn, hrest]⟩, fun before' version' after' h' ↦ ?_⟩
  by_contra! hlt
  obtain ⟨more, rfl, rfl, he⟩ | ⟨between, rfl, he⟩ :=
    version_append_cases isVersion h'.isVersion hlt h'.eq
  · have hr := hmin before' (more ++ version) (digits ++ rest)
      ⟨by simp, h'.noDot, h'.isVersion, oneLine⟩
    omega
  · -- The variant name of the earlier reading ends before the digits begin.
    have he' : variant ++ after' = ((between ++ (version ++ ['-'])) ++ variant) ++ (number ++ rest) := by
      rw [he]
      simp
    obtain ⟨more, hm, ha⟩ | ⟨more, hm, -⟩ := List.append_eq_append_iff.1 he'
    · have hline : '\n' ∉ more := fun hx ↦ h'.oneLine (ha ▸ List.mem_append_left _ hx)
      have hr := hmin before' version' (more ++ (digits ++ rest))
        ⟨?_, h'.noDot, h'.isVersion, by simp [hline, newline_notMem hd, hrest]⟩
      · omega
      · rw [← List.append_assoc variant more, ← hm]
        simp
    · have hlen := congrArg List.length hm
      simp at hlen
      omega

theorem ReadsFirst.replace_group {head last number : Text} (hdot : '.' ∉ variant)
    (h : ReadsFirst variant name before (head ++ '.' :: last) after)
    (hn : IsVersion number) :
    ReadsFirst variant (before ++ ((head ++ '.' :: number) ++ '-' :: (variant ++ after))) before
      (head ++ '.' :: number) after := by
  obtain ⟨⟨rfl, noDot, isVersion, oneLine⟩, hmin⟩ := h
  obtain ⟨hh, hl⟩ := isVersion_append_dot_iff.1 isVersion
  have hv : IsVersion (head ++ '.' :: number) := isVersion_append_dot_iff.2 ⟨hh, hn⟩
  refine ⟨⟨rfl, noDot, hv, oneLine⟩, fun before' version' after' h' ↦ ?_⟩
  by_contra! hlt
  obtain ⟨more, rfl, rfl, he⟩ | ⟨between, rfl, he⟩ := version_append_cases hv h'.isVersion hlt h'.eq
  · have hm : IsVersion ((more ++ head) ++ '.' :: number) := by simpa using h'.isVersion
    have hv' : IsVersion ((more ++ head) ++ '.' :: last) :=
      isVersion_append_dot_iff.2 ⟨(isVersion_append_dot_iff.1 hm).1, hl⟩
    have hr := hmin before' ((more ++ head) ++ '.' :: last) after
      ⟨by simp, h'.noDot, hv', oneLine⟩
    omega
  · -- The variant name of the earlier reading holds no dot, so that it ends before the last group.
    have he' : variant ++ after' =
        (between ++ head) ++ '.' :: (number ++ '-' :: (variant ++ after)) := by
      rw [he]
      simp
    obtain ⟨more, hm, ha⟩ := Text.exists_append_of_notMem hdot he'
    have hline : '\n' ∉ more ++ '.' :: (last ++ '-' :: (variant ++ after)) := by
      have ho := h'.oneLine
      rw [ha] at ho
      simp only [List.mem_append, List.mem_cons, not_or] at ho ⊢
      exact ⟨ho.1, ho.2.1, hl.notMem (by decide) (by decide), ho.2.2.2⟩
    have hr := hmin before' version' _ ⟨?_, h'.noDot, h'.isVersion, hline⟩
    · omega
    · rw [← List.append_assoc variant more, ← hm]
      simp

theorem splice_eq {name start part rest : Text} {position : Nat} (digits : Text)
    (hname : name = start ++ (part ++ rest)) (hposition : position = start.length) :
    Build.splice name position (position + part.length) digits = start ++ (digits ++ rest) := by
  subst hname hposition
  simp [Build.splice, List.drop_append]

theorem parts?_splice_of_default {name digits : Text} {parts : Parts} (hdot : '.' ∉ variant)
    (h : (firstCut? variant defaultTokens name).bind Cut.parts? = some parts)
    (hne : digits ≠ []) (hd : ∀ c ∈ digits, Text.isDigit c = true) :
    (firstCut? variant defaultTokens
      (Build.splice name parts.number.start parts.number.stop digits)).bind Cut.parts? =
        some ⟨parts.version, ⟨parts.number.start, digits⟩⟩ := by
  obtain ⟨cut, hc, hp⟩ := Option.bind_eq_some_iff.1 h
  obtain ⟨before, version, digits', rest, dash, tail, rfl, hf, hd', hr⟩ := exists_of_firstCut?_default hc
  rw [parts?_defaultCut, defaultParts?] at hp
  split at hp
  · rename_i hnil
    subst hnil
    obtain ⟨⟨head, last⟩, hl, rfl⟩ := Option.map_eq_some_iff.1 hp
    obtain ⟨rfl, hh, -, -⟩ := cutLast?_version hf.1.isVersion hl
    have hnew : ReadsFirst variant
        (before ++ ((head ++ '.' :: digits) ++ '-' :: (variant ++ ([] ++ rest)))) before
        (head ++ '.' :: digits) ([] ++ rest) :=
      hf.replace_group hdot (isVersion_of_digits hne hd)
    have hname : name = (before ++ (head ++ ['.'])) ++ (last ++ '-' :: (variant ++ ([] ++ rest))) := by
      simpa using hf.1.eq
    have hsplice : Build.splice name (before.length + head.length + 1)
        (before.length + head.length + 1 + last.length) digits =
          before ++ ((head ++ '.' :: digits) ++ '-' :: (variant ++ ([] ++ rest))) := by
      have hs := splice_eq digits hname rfl
      simpa [Nat.add_assoc] using hs
    simp only [Located.stop, hsplice]
    rw [hnew.parts?_eq (List.forall_mem_nil _) hr, defaultParts?, if_pos rfl, cutLast?_digits head hd]
    rfl
  · obtain rfl := Option.some.inj hp
    have hnew := hf.replace_digits hd' hd
    have hname : name = (before ++ (version ++ '-' :: variant)) ++ (digits' ++ rest) := by
      simpa using hf.1.eq
    have hsplice : Build.splice name (before.length + version.length + 1 + variant.length)
        (before.length + version.length + 1 + variant.length + digits'.length) digits =
          before ++ (version ++ '-' :: (variant ++ (digits ++ rest))) := by
      have hs := splice_eq digits hname rfl
      simpa [Nat.add_assoc, Nat.add_comm, Nat.add_left_comm] using hs
    simp only [Located.stop, hsplice]
    rw [hnew.parts?_eq hd hr, defaultParts?, if_neg hne]

end BuildTags.Pattern
