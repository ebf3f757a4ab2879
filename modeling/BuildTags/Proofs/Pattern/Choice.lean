import BuildTags.Proofs.Pattern.Version

namespace BuildTags.Pattern

abbrev Stretch := Text × Text

def Stretch.push (c : Char) (stretch : Stretch) : Stretch := (c :: stretch.1, stretch.2)

/-- The stretches of characters of a class, the shortest first. -/
def stretches (inClass : Char → Bool) : Text → List Stretch
  | [] => [([], [])]
  | c :: text =>
    ([], c :: text) :: if inClass c then (stretches inClass text).map (Stretch.push c) else []

def groupStretches : Text → List Stretch
  | [] => [([], [])]
  | '.' :: c :: text =>
    ([], '.' :: c :: text) ::
      if Text.isDigit c then ((groupStretches text).map (Stretch.push c)).map (Stretch.push '.')
      else []
  | c :: text =>
    ([], c :: text) :: if Text.isDigit c then (groupStretches text).map (Stretch.push c) else []

def versionStretches : Text → List Stretch
  | [] => []
  | c :: text => if Text.isDigit c then (groupStretches text).map (Stretch.push c) else []

section

variable {α : Type} (next : Text → Option α)

def attempt (stretch : Stretch) : Option (Text × α) := (next stretch.2).map (stretch.1, ·)

theorem attempt_push (c : Char) (stretch : Stretch) : attempt next (stretch.push c) =
    (attempt next stretch).map fun (taken, a) ↦ (c :: taken, a) := by
  simp [attempt, Stretch.push, Function.comp_def]

theorem findSome?_map_push (c : Char) (found : List Stretch) :
    (found.map (Stretch.push c)).findSome? (attempt next) =
      (found.findSome? (attempt next)).map fun (taken, a) ↦ (c :: taken, a) := by
  rw [List.findSome?_map, List.map_findSome?]
  congr 1
  funext stretch
  exact attempt_push next c stretch

theorem takeLeast_eq (inClass : Char → Bool) (text : Text) :
    takeLeast next inClass text = (stretches inClass text).findSome? (attempt next) := by
  induction text with
  | nil => simp [takeLeast, stretches, attempt]
  | cons c text ih =>
    simp only [takeLeast, stretches, List.findSome?_cons, attempt]
    cases hn : next (c :: text) with
    | some a => simp
    | none =>
      by_cases hc : inClass c = true
      · simp [hc, ih, findSome?_map_push]
      · simp [hc]

theorem takeMost_eq (inClass : Char → Bool) (text : Text) :
    takeMost next inClass text = (stretches inClass text).reverse.findSome? (attempt next) := by
  induction text with
  | nil => simp [takeMost, stretches, attempt]
  | cons c text ih =>
    by_cases hc : inClass c = true
    · simp only [takeMost, hc, if_true, stretches, List.reverse_cons, ← List.map_reverse,
        List.findSome?_append, findSome?_map_push, ← ih]
      cases takeMost next inClass text <;> simp [attempt]
    · simp [takeMost, hc, stretches, attempt]

theorem takeGroups_eq (text : Text) :
    takeGroups next text = (groupStretches text).reverse.findSome? (attempt next) := by
  fun_induction takeGroups next text with
  | case1 => simp [groupStretches, attempt]
  | case2 c text hc taken a hg ih =>
    simp only [groupStretches, hc, if_true, List.reverse_cons, ← List.map_reverse,
      List.findSome?_append, findSome?_map_push, ← ih, hg]
    rfl
  | case3 c text hc hg ih =>
    simp only [groupStretches, hc, if_true, List.reverse_cons, ← List.map_reverse,
      List.findSome?_append, findSome?_map_push, ← ih, hg]
    simp [attempt]
  | case4 c text hc => simp [groupStretches, hc, attempt]
  | case5 c text h hc taken a hg ih =>
    simp only [groupStretches, hc, if_true, List.reverse_cons, ← List.map_reverse,
      List.findSome?_append, findSome?_map_push, ← ih, hg]
    rfl
  | case6 c text h hc hg ih =>
    simp only [groupStretches, hc, if_true, List.reverse_cons, ← List.map_reverse,
      List.findSome?_append, findSome?_map_push, ← ih, hg]
    simp [attempt]
  | case7 c text h hc => simp [groupStretches, hc, attempt]

theorem takeVersion_eq (text : Text) :
    takeVersion next text = (versionStretches text).reverse.findSome? (attempt next) := by
  cases text with
  | nil => rfl
  | cons c text =>
    by_cases hc : Text.isDigit c = true
    · simp only [takeVersion, versionStretches, hc, if_true, ← List.map_reverse,
        findSome?_map_push, takeGroups_eq]
    · simp [takeVersion, versionStretches, hc]

end

theorem nil_notMem_map_push {c : Char} {found : List Stretch} {rest : Text} :
    ([], rest) ∉ found.map (Stretch.push c) := by
  simp [Stretch.push]

theorem cons_mem_map_push {c d : Char} {found : List Stretch} {taken rest : Text} :
    (d :: taken, rest) ∈ found.map (Stretch.push c) ↔ c = d ∧ (taken, rest) ∈ found := by
  grind [Stretch.push]

theorem mem_stretches {inClass : Char → Bool} {text taken rest : Text} :
    (taken, rest) ∈ stretches inClass text ↔
      text = taken ++ rest ∧ ∀ c ∈ taken, inClass c = true := by
  induction text generalizing taken with
  | nil => cases taken <;> simp [stretches, @eq_comm _ [] rest]
  | cons c text ih =>
    rw [stretches, List.mem_cons]
    by_cases hc : inClass c = true
    · rw [if_pos hc]
      cases taken with
      | nil => grind [nil_notMem_map_push]
      | cons d taken => grind [cons_mem_map_push]
    · rw [if_neg hc]
      cases taken <;> grind

theorem mem_groupStretches {text taken rest : Text} :
    (taken, rest) ∈ groupStretches text ↔ text = taken ++ rest ∧ Continues taken := by
  fun_induction groupStretches text generalizing taken with
  | case1 => cases taken <;> simp [continues_nil, @eq_comm _ [] rest]
  | case2 c text ih =>
    rw [List.mem_cons]
    by_cases hc : Text.isDigit c = true
    · rw [if_pos hc]
      match taken with
      | [] => grind [nil_notMem_map_push, continues_nil]
      | [d] => grind [cons_mem_map_push, nil_notMem_map_push, not_continues_dot]
      | d :: e :: taken => grind [cons_mem_map_push, continues_dot_iff]
    · rw [if_neg hc]
      match taken with
      | [] => grind [continues_nil]
      | [d] => grind [not_continues_dot]
      | d :: e :: taken => grind [continues_dot_iff]
  | case3 c text h ih =>
    rw [List.mem_cons]
    cases taken with
    | nil => grind [nil_notMem_map_push, continues_nil]
    | cons d taken =>
      by_cases hc : c = '.'
      · have ht : text = [] := by
          cases text with
          | nil => rfl
          | cons e text => exact (h e text hc rfl).elim
        subst hc ht
        rw [if_neg (by simp [isDigit_dot])]
        refine ⟨by simp, fun ⟨he, ht⟩ ↦ ?_⟩
        obtain ⟨rfl, hn⟩ := List.cons.inj he
        obtain ⟨rfl, -⟩ := List.append_eq_nil_iff.1 hn.symm
        exact absurd ht not_continues_dot
      · grind [cons_mem_map_push, continues_cons_iff]

theorem mem_versionStretches {text taken rest : Text} :
    (taken, rest) ∈ versionStretches text ↔ text = taken ++ rest ∧ IsVersion taken := by
  cases text with
  | nil => cases taken <;> simp [versionStretches, not_isVersion_nil]
  | cons c text =>
    rw [versionStretches]
    cases taken with
    | nil => grind [nil_notMem_map_push, not_isVersion_nil]
    | cons d taken => grind [cons_mem_map_push, isVersion_cons_iff, mem_groupStretches]

def Rising (found : List Stretch) : Prop := found.Pairwise (·.1.length < ·.1.length)

theorem Rising.push {found : List Stretch} (h : Rising found) (c : Char) :
    Rising (found.map (Stretch.push c)) :=
  List.pairwise_map.2 (h.imp fun hl ↦ Nat.succ_lt_succ hl)

theorem Rising.cons_push {found : List Stretch} (h : Rising found) (c : Char) (text : Text) :
    Rising (([], text) :: found.map (Stretch.push c)) := by
  refine List.pairwise_cons.2 ⟨fun stretch hm ↦ ?_, h.push c⟩
  obtain ⟨_, _, rfl⟩ := List.mem_map.1 hm
  exact Nat.succ_pos _

theorem rising_singleton (stretch : Stretch) : Rising [stretch] := List.pairwise_singleton _ _

theorem rising_stretches (inClass : Char → Bool) (text : Text) :
    Rising (stretches inClass text) := by
  induction text with
  | nil => exact rising_singleton _
  | cons c text ih =>
    rw [stretches]
    split
    · exact ih.cons_push c _
    · exact rising_singleton _

theorem rising_groupStretches (text : Text) : Rising (groupStretches text) := by
  fun_induction groupStretches text with
  | case1 => exact rising_singleton _
  | case2 c text ih =>
    split
    · exact (ih.push c).cons_push '.' _
    · exact rising_singleton _
  | case3 c text h ih =>
    split
    · exact ih.cons_push c _
    · exact rising_singleton _

theorem rising_versionStretches (text : Text) : Rising (versionStretches text) := by
  cases text with
  | nil => exact List.Pairwise.nil
  | cons c text =>
    rw [versionStretches]
    split
    · exact (rising_groupStretches text).push c
    · exact List.Pairwise.nil

end BuildTags.Pattern
