import BuildTags.Proofs.List
import BuildTags.Proofs.Repository.Source
import BuildTags.Proofs.Text.Split
import BuildTags.Proofs.Text.Uniform

namespace BuildTags.Repository.Git

def printed (records : List Text) : Text :=
  records.flatMap fun record ↦ record ++ [recordMark, '\n']

def recordOf (fields : List Text) : Text := [fieldMark].intercalate fields

theorem splitRecords_append_mark (text rest : Text) :
    splitRecords (text ++ recordMark :: rest) = splitRecords text ++ splitRecords rest := by
  have hsplit : (text ++ recordMark :: rest).splitOn recordMark =
      text.splitOn recordMark ++ rest.splitOn recordMark :=
    List.splitOnP_append_cons text rest (beq_self_eq_true recordMark)
  rw [splitRecords, hsplit, List.filter_append, List.map_append]
  rfl

theorem splitRecords_feed_cons (text : Text) : splitRecords ('\n' :: text) = splitRecords text := by
  have hsplit : ('\n' :: text).splitOn recordMark =
      (text.splitOn recordMark).modifyHead ('\n' :: ·) := Text.splitOn_cons_of_ne (by decide) text
  rw [splitRecords, splitRecords, hsplit]
  cases hs : text.splitOn recordMark with
  | nil => rfl
  | cons record records =>
    have hblank : Text.blank ('\n' :: record) = Text.blank record := rfl
    rw [List.modifyHead_cons, List.filter_cons, List.filter_cons, hblank]
    cases Text.blank record <;> rfl

theorem splitRecords_of_notMem {record : Text} (h : recordMark ∉ record) : splitRecords record =
    ([record].filter fun record ↦ !Text.blank record).map fun record ↦
      (record.dropWhile (· = '\n')).splitOn fieldMark := by
  rw [splitRecords, List.splitOn_eq_singleton h]

theorem splitRecords_printed {records : List Text} (h : ∀ record ∈ records, recordMark ∉ record) :
    splitRecords (printed records) = (records.filter fun record ↦ !Text.blank record).map
      fun record ↦ (record.dropWhile (· = '\n')).splitOn fieldMark := by
  induction records with
  | nil => rfl
  | cons record records ih =>
    obtain ⟨hrecord, hrecords⟩ := List.forall_mem_cons.1 h
    rw [printed, List.flatMap_cons, List.append_assoc]
    show splitRecords (record ++ recordMark :: '\n' :: printed records) = _
    rw [splitRecords_append_mark, splitRecords_feed_cons, splitRecords_of_notMem hrecord,
      ih hrecords, ← List.map_append, ← List.filter_append, List.singleton_append]

theorem notMem_recordOf {fields : List Text} {c : Char} (hc : c ≠ fieldMark)
    (h : ∀ field ∈ fields, c ∉ field) : c ∉ recordOf fields := by
  induction fields with
  | nil => exact List.not_mem_nil
  | cons field fields ih =>
    obtain ⟨hfield, hfields⟩ := List.forall_mem_cons.1 h
    cases fields with
    | nil =>
      rw [recordOf, List.intercalate_singleton]
      exact hfield
    | cons next fields =>
      rw [recordOf, List.intercalate_cons_cons, List.mem_append, List.mem_append, not_or, not_or,
        List.mem_singleton]
      exact ⟨⟨hfield, hc⟩, ih hfields⟩

/-- Whether fields hold no mark and begin with a character that is not blank. -/
structure IsRow (fields : List Text) : Prop where
  marks : ∀ field ∈ fields, fieldMark ∉ field ∧ recordMark ∉ field
  head : ∃ c first rest, fields = (c :: first) :: rest ∧ Text.isBlank c = false

namespace IsRow

variable {fields : List Text}

theorem exists_recordOf (h : IsRow fields) :
    ∃ c rest, recordOf fields = c :: rest ∧ Text.isBlank c = false := by
  obtain ⟨c, first, rest, rfl, hc⟩ := h.head
  cases rest with
  | nil => exact ⟨c, first, List.intercalate_singleton, hc⟩
  | cons next rest =>
    rw [recordOf, List.intercalate_cons_cons]
    exact ⟨c, _, rfl, hc⟩

theorem recordMark_notMem (h : IsRow fields) : recordMark ∉ recordOf fields := by
  apply notMem_recordOf (by decide)
  intro field hfield
  exact (h.marks field hfield).2

theorem blank_recordOf (h : IsRow fields) : Text.blank (recordOf fields) = false := by
  obtain ⟨c, rest, hr, hc⟩ := h.exists_recordOf
  rw [hr, Text.blank, List.all_cons, hc, Bool.false_and]

theorem splitOn_recordOf (h : IsRow fields) :
    ((recordOf fields).dropWhile (· = '\n')).splitOn fieldMark = fields := by
  obtain ⟨c, rest, hr, hc⟩ := h.exists_recordOf
  have hfeed : c ≠ '\n' := by
    rintro rfl
    revert hc
    decide
  have hdrop : (recordOf fields).dropWhile (· = '\n') = recordOf fields := by
    rw [hr]
    exact List.dropWhile_cons_of_neg (by simp [hfeed])
  rw [hdrop]
  apply List.splitOn_intercalate
  · intro field hm
    exact (h.marks field hm).1
  · obtain ⟨c, first, rest, rfl, -⟩ := h.head
    exact List.cons_ne_nil _ _

theorem reference {name : Text} {rest : List Text}
    (h : ∀ text ∈ name :: rest, fieldMark ∉ text ∧ recordMark ∉ text) :
    IsRow ((refStart ++ name) :: rest) := by
  obtain ⟨hname, hrest⟩ := List.forall_mem_cons.1 h
  have hstart : fieldMark ∉ refStart ∧ recordMark ∉ refStart := by decide
  have hletter : refStart = 'r' :: refStart.tail := by decide
  constructor
  · refine List.forall_mem_cons.2 ⟨?_, hrest⟩
    simp only [List.mem_append, not_or]
    exact ⟨⟨hstart.1, hname.1⟩, hstart.2, hname.2⟩
  · refine ⟨'r', refStart.tail ++ name, rest, ?_, by decide⟩
    rw [hletter]
    rfl

end IsRow

/-- Printed rows are read back: none is lost, and none is split or shifted. -/
theorem splitRecords_rows {rows : List (List Text)} (h : ∀ row ∈ rows, IsRow row) :
    splitRecords (printed (rows.map recordOf)) = rows := by
  have hmarks : ∀ record ∈ rows.map recordOf, recordMark ∉ record := by
    intro record hm
    obtain ⟨row, hr, rfl⟩ := List.mem_map.1 hm
    exact (h row hr).recordMark_notMem
  have hkept : (rows.map recordOf).filter (fun record ↦ !Text.blank record) =
      rows.map recordOf := by
    apply List.filter_eq_self.2
    intro record hm
    obtain ⟨row, hr, rfl⟩ := List.mem_map.1 hm
    rw [(h row hr).blank_recordOf, Bool.not_false]
  rw [splitRecords_printed hmarks, hkept, List.map_map]
  calc rows.map _ = rows.map id := List.map_congr_left fun row hr ↦ (h row hr).splitOn_recordOf
    _ = rows := List.map_id rows

theorem tagOf_fields (order : Nat) (name object peeled contents : Text) :
    tagOf order [refStart ++ name, object, peeled, contents] =
      { name, order, sha := if peeled = [] then object else peeled,
        message := if peeled = [] then [] else Text.trim contents } := by
  have hname : Text.without refStart (refStart ++ name) = name := by
    rw [Text.without, Text.after?_append]
    rfl
  simp [tagOf, field, hname]

theorem tagsOf_rows {α : Type} {items : List α} {fields : α → List Text} {tag : Nat → α → Tag}
    (h : ∀ item ∈ items, IsRow (fields item))
    (ht : ∀ item ∈ items, ∀ order, tagOf order (fields item) = tag order item) :
    tagsOf (printed (items.map fun item ↦ recordOf (fields item))) = items.mapIdx tag := by
  have hrows : ∀ row ∈ items.map fields, IsRow row := by
    intro row hm
    obtain ⟨item, hi, rfl⟩ := List.mem_map.1 hm
    exact h item hi
  have hread := splitRecords_rows hrows
  rw [List.map_map] at hread
  show (splitRecords (printed (items.map (recordOf ∘ fields)))).mapIdx tagOf = _
  rw [hread]
  apply List.ext_getElem?
  intro i
  rw [List.getElem?_mapIdx, List.getElem?_map, List.getElem?_mapIdx]
  cases hi : items[i]? with
  | none => rfl
  | some item => exact congrArg some (ht item (List.mem_of_getElem? hi) i)

theorem outcome_run {ending : Ending} {output errors : Text}
    (h : ending.handedOver = .ok (0, output, errors)) (folder : Text) (arguments : List Text) :
    (run folder arguments ending).outcome = .ok output := by
  rw [run]
  simp only [Traced.outcome_bind, h]
  rfl

theorem outcome_run_printed (folder : Text) (arguments : List Text) (output errors : Text) :
    (run folder arguments (.printed 0 output errors)).outcome = .ok (Text.uniformLines output) :=
  outcome_run rfl folder arguments

theorem uniformLines_printed (records : List Text) :
    Text.uniformLines (printed records) = printed (records.map Text.uniformLines) := by
  induction records with
  | nil => rfl
  | cons record records ih =>
    have hcons : ∀ record records, printed (record :: records) =
        record ++ recordMark :: '\n' :: printed records := by
      intro record records
      rw [printed, List.flatMap_cons, List.append_assoc]
      rfl
    rw [hcons, Text.uniformLines_append_cons (by decide) (by decide),
      Text.uniformLines_cons (by decide), ih, List.map_cons, hcons]

theorem uniformLines_recordOf (fields : List Text) :
    Text.uniformLines (recordOf fields) = recordOf (fields.map Text.uniformLines) := by
  induction fields with
  | nil => rfl
  | cons field fields ih =>
    cases fields with
    | nil =>
      rw [recordOf, List.map_singleton, recordOf, List.intercalate_singleton,
        List.intercalate_singleton]
    | cons next fields =>
      have hcons : ∀ field next fields, recordOf (field :: next :: fields) =
          field ++ fieldMark :: recordOf (next :: fields) := by
        intro field next fields
        rw [recordOf, List.intercalate_cons_cons, List.append_assoc]
        rfl
      rw [hcons, Text.uniformLines_append_cons (by decide) (by decide), ih]
      simp only [List.map_cons]
      rw [hcons]

theorem uniformLines_refStart_append (name : Text) :
    Text.uniformLines (refStart ++ name) = refStart ++ Text.uniformLines name := by
  have hlast : refStart.getLast? = some '\r' → name.head? ≠ some '\n' := fun h ↦ by cases h
  rw [Text.uniformLines_append hlast]
  rfl

theorem marks_uniformLines {text : Text} (h : fieldMark ∉ text ∧ recordMark ∉ text) :
    fieldMark ∉ Text.uniformLines text ∧ recordMark ∉ Text.uniformLines text :=
  ⟨Text.notMem_uniformLines (by decide) h.1, Text.notMem_uniformLines (by decide) h.2⟩

end BuildTags.Repository.Git
