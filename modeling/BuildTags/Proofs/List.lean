import Mathlib.Data.List.Basic
import Mathlib.Data.List.Flatten

namespace BuildTags

section

variable {κ α : Type} [DecidableEq κ] {key : κ} {a : α} {table : List (κ × α)}

theorem mem_of_find?_key (h : (table.find? (·.1 = key)).map (·.2) = some a) : (key, a) ∈ table := by
  obtain ⟨entry, hfind, rfl⟩ := Option.map_eq_some_iff.1 h
  have hkey : entry.1 = key := by simpa using List.find?_some hfind
  exact hkey ▸ List.mem_of_find?_eq_some hfind

theorem find?_key_eq_none_iff (table : List (κ × α)) :
    table.find? (·.1 = key) = none ↔ key ∉ table.map (·.1) := by
  rw [List.find?_eq_none, List.mem_map]
  constructor
  · rintro h ⟨entry, he, hkey⟩
    exact h entry he (decide_eq_true hkey)
  · intro h entry he hkey
    exact h ⟨entry, he, of_decide_eq_true hkey⟩

theorem find?_key_ne_none_iff (table : List (κ × α)) :
    (∃ entry, table.find? (·.1 = key) = some entry) ↔ key ∈ table.map (·.1) := by
  rw [← Option.ne_none_iff_exists', Ne, find?_key_eq_none_iff, not_not]

end

variable {α β γ : Type} {items : List α}

theorem map_list_eq_self_iff {f : α → α} : items.map f = items ↔ ∀ a ∈ items, f a = a := by
  have hself : items.map f = items.map id ↔ ∀ a ∈ items, f a = a := List.map_eq_map_iff
  rwa [List.map_id] at hself

theorem map_mapIdx (f : β → γ) (item : Nat → α → β) (items : List α) :
    (items.mapIdx item).map f = items.mapIdx fun order a ↦ f (item order a) := by
  apply List.ext_getElem?
  intro i
  rw [List.getElem?_map, List.getElem?_mapIdx, List.getElem?_mapIdx, Option.map_map]
  rfl

/-- What does not depend on the place of an item is the same in every listing. -/
theorem map_mapIdx_of_const {f : β → γ} {g : α → γ} {item : Nat → α → β}
    (h : ∀ order a, f (item order a) = g a) (items : List α) :
    (items.mapIdx item).map f = items.map g := by
  rw [map_mapIdx]
  apply List.ext_getElem?
  intro i
  rw [List.getElem?_mapIdx, List.getElem?_map]
  congr 1
  funext a
  exact h i a

theorem flatMap_eq_iff_of_sublist {f g : α → List β}
    (h : ∀ item ∈ items, (f item).Sublist (g item)) :
    items.flatMap f = items.flatMap g ↔ ∀ item ∈ items, f item = g item := by
  constructor
  · intro he
    induction items with
    | nil => nofun
    | cons item items ih =>
      obtain ⟨hitem, hitems⟩ := List.forall_mem_cons.1 h
      have hrest := List.Sublist.flatMap_right items hitems
      have hlength := congrArg List.length he
      rw [List.flatMap_cons, List.flatMap_cons, List.length_append, List.length_append] at hlength
      have hle := hitem.length_le
      have hle' := hrest.length_le
      have hsame := hitem.eq_of_length (by omega)
      have hsame' := hrest.eq_of_length (by omega)
      exact List.forall_mem_cons.2 ⟨hsame, ih hitems hsame'⟩
  · intro he
    exact List.flatMap_congr he

end BuildTags
