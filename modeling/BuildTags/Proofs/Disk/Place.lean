import BuildTags.Disk.Basic
import BuildTags.Proofs.Outcome
import Mathlib.Logic.Basic
import Mathlib.Tactic.SplitIfs

namespace BuildTags.Disk

def follow : (folder : Place) → List Text → Place
  | folder, [] => folder
  | folder, name :: names =>
    if name = "." then follow folder names
    else if name = ".." then follow folder.dropLast names
    else follow (folder ++ [name]) names

/-- The place that a path names, whether or not something stands there. -/
def target? (disk : Disk) (path : Text) : Option Place :=
  match written path with
  | .ok path => some (follow (disk.start path) path.names)
  | .error _ => none

variable {disk disk' : Disk} {folder found : Place} {names : List Text}

theorem follow_append (folder : Place) (names more : List Text) :
    follow folder (names ++ more) = follow (follow folder names) more := by
  induction names generalizing folder with
  | nil => rfl
  | cons name names ih => simp only [List.cons_append, follow, ih]; split_ifs <;> rfl

theorem walk_cons_eq_ok_iff {name : Text} (hdot : name ≠ ".") (hup : name ≠ "..") :
    disk.walk folder (name :: names) = .ok found ↔ (Utf8.encode name).length ≤ maxNameBytes ∧
      disk.kind? (folder ++ [name]) = some .folder ∧
      disk.walk (folder ++ [name]) names = .ok found := by
  rw [walk, if_neg hdot, if_neg hup]
  split_ifs with hlong
  · simp [Nat.not_le.2 hlong]
  · cases hk : disk.kind? (folder ++ [name]) with
    | none => simp [hk]
    | some kind => cases kind <;> simp [hk, Nat.not_lt.1 hlong]

theorem eq_follow_of_walk (h : disk.walk folder names = .ok found) :
    found = follow folder names := by
  induction names generalizing folder with
  | nil => exact (Except.ok.inj h).symm
  | cons name names ih =>
    rw [follow]
    split_ifs with hdot hup
    · rw [walk, if_pos hdot] at h
      exact ih h
    · rw [walk, if_neg hdot, if_pos hup] at h
      exact ih h
    · exact ih ((walk_cons_eq_ok_iff hdot hup).1 h).2.2

def EndsInDots (names : List Text) : Prop :=
  ∀ start last, names = start ++ [last] → last = ("." : Text) ∨ last = (".." : Text)

theorem placeOf_of_endsInDots (h : EndsInDots names) :
    disk.placeOf folder names = disk.walk folder names := by
  unfold placeOf
  split
  · rename_i hn
    rw [List.getLast?_eq_none_iff.1 hn]
    rfl
  · rename_i last hl
    obtain ⟨start, rfl⟩ := List.getLast?_eq_some_iff.1 hl
    exact if_pos (h start last rfl)

/-- The last name of a path is not looked up, so that it need not be there. -/
theorem placeOf_concat_eq_ok_iff {last : Text} (hdot : last ≠ ".") (hup : last ≠ "..") :
    disk.placeOf folder (names ++ [last]) = .ok found ↔
      ∃ parent, disk.walk folder names = .ok parent ∧
        (Utf8.encode last).length ≤ maxNameBytes ∧ found = parent ++ [last] := by
  rw [placeOf, List.getLast?_concat]
  simp only [hdot, hup, or_self, if_false, List.dropLast_concat, bind_eq_ok_iff]
  refine exists_congr fun parent ↦ and_congr_right fun _ ↦ ?_
  split_ifs with hlong
  · simp [Nat.not_le.2 hlong]
  · rw [show (pure (parent ++ [last]) : Except Refusal Place) = .ok (parent ++ [last]) from rfl]
    simp [Nat.not_lt.1 hlong, eq_comm]

theorem endsInDots_or_exists (names : List Text) : EndsInDots names ∨
    ∃ (start : List Text) (last : Text), names = start ++ [last] ∧ last ≠ "." ∧ last ≠ ".." := by
  by_cases h : EndsInDots names
  · exact .inl h
  · simp only [EndsInDots, not_forall, not_or] at h
    obtain ⟨start, last, he, hdots⟩ := h
    exact .inr ⟨start, last, he, hdots⟩

theorem eq_follow_of_placeOf (h : disk.placeOf folder names = .ok found) :
    found = follow folder names := by
  rcases endsInDots_or_exists names with hd | ⟨start, last, rfl, hdot, hup⟩
  · exact eq_follow_of_walk (placeOf_of_endsInDots hd ▸ h)
  · obtain ⟨parent, hw, -, rfl⟩ := (placeOf_concat_eq_ok_iff hdot hup).1 h
    rw [follow_append, ← eq_follow_of_walk hw, follow, if_neg hdot, if_neg hup, follow]

theorem target?_of_place {path : Path} (h : disk.place path = .ok found) :
    disk.target? path.toText = some found := by
  obtain ⟨written, hw, hp⟩ := bind_eq_ok_iff.1 h
  rw [target?, hw, eq_follow_of_placeOf hp]

theorem target?_of_placeToAppend {path : Text} (h : disk.placeToAppend path = .ok found) :
    disk.target? path = some found := by
  obtain ⟨written, hw, h⟩ := bind_eq_ok_iff.1 h
  split_ifs at h with hslash
  · obtain ⟨_, -, h⟩ := bind_eq_ok_iff.1 h
    cases h
  · obtain ⟨found, hp, h⟩ := bind_eq_ok_iff.1 h
    split_ifs at h
    obtain rfl := Except.ok.inj h
    rw [target?, hw, eq_follow_of_placeOf hp]

/-- Whether all that stands on a disk stands on another one as well, a file as a file and a folder as
a folder. -/
structure Extends (disk disk' : Disk) : Prop where
  working : disk'.working = disk.working
  kind : ∀ {place kind}, disk.kind? place = some kind → disk'.kind? place = some kind

namespace Extends

theorem refl (disk : Disk) : Extends disk disk := ⟨rfl, fun h ↦ h⟩

theorem trans {disk'' : Disk} (h : Extends disk disk') (h' : Extends disk' disk'') :
    Extends disk disk'' :=
  ⟨h'.working.trans h.working, fun hk ↦ h'.kind (h.kind hk)⟩

theorem target?_eq (h : Extends disk disk') (path : Text) :
    disk'.target? path = disk.target? path := by
  simp only [target?, start, h.working]

theorem walk (h : Extends disk disk') (hw : disk.walk folder names = .ok found) :
    disk'.walk folder names = .ok found := by
  induction names generalizing folder with
  | nil => exact hw
  | cons name names ih =>
    by_cases hdot : name = "."
    · rw [Disk.walk, if_pos hdot] at hw ⊢
      exact ih hw
    by_cases hup : name = ".."
    · rw [Disk.walk, if_neg hdot, if_pos hup] at hw ⊢
      exact ih hw
    obtain ⟨hl, hk, hw⟩ := (walk_cons_eq_ok_iff hdot hup).1 hw
    exact (walk_cons_eq_ok_iff hdot hup).2 ⟨hl, h.kind hk, ih hw⟩

theorem placeOf (h : Extends disk disk') (hp : disk.placeOf folder names = .ok found) :
    disk'.placeOf folder names = .ok found := by
  rcases endsInDots_or_exists names with hd | ⟨start, last, rfl, hdot, hup⟩
  · rw [placeOf_of_endsInDots hd] at hp ⊢
    exact h.walk hp
  · obtain ⟨parent, hw, hl, he⟩ := (placeOf_concat_eq_ok_iff hdot hup).1 hp
    exact (placeOf_concat_eq_ok_iff hdot hup).2 ⟨parent, h.walk hw, hl, he⟩

theorem place (h : Extends disk disk') {path : Path} (hp : disk.place path = .ok found) :
    disk'.place path = .ok found := by
  obtain ⟨written, hw, hp⟩ := bind_eq_ok_iff.1 hp
  have hs : disk'.start written = disk.start written := by simp only [start, h.working]
  rw [Disk.place, hw, ok_bind, hs]
  exact h.placeOf hp

end Extends

end BuildTags.Disk
