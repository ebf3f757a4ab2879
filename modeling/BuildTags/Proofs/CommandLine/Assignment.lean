import BuildTags.Proofs.CommandLine.Session
import BuildTags.Proofs.Text.Split

namespace BuildTags.CommandLine

/-- What the lines of a text assign, each line being ended by a line feed: the text before and the
one after the first equals sign of a line, if there is one. -/
def assignments (text : Text) : List (Option (Text × Text)) :=
  (text.splitOn '\n').dropLast.map (Text.cutFirst? "=")

theorem assignments_line_append {pair : Text × Text} (hname : '=' ∉ pair.1) (hn : '\n' ∉ pair.1)
    (hv : '\n' ∉ pair.2) (rest : Text) :
    assignments (assignmentLine pair ++ rest) = some pair :: assignments rest := by
  have hline : '\n' ∉ pair.1 ++ '=' :: pair.2 := by
    intro hm
    rcases List.mem_append.1 hm with hm | hm
    · exact hn hm
    · rcases List.mem_cons.1 hm with he | hm
      · cases he
      · exact hv hm
  have hcut : Text.cutFirst? "=" (pair.1 ++ '=' :: pair.2) = some pair :=
    Text.cutFirst?_singleton_eq_some_iff.2 ⟨rfl, hname⟩
  have hsplit : (assignmentLine pair ++ rest).splitOn '\n' =
      (pair.1 ++ '=' :: pair.2) :: rest.splitOn '\n' := by
    rw [assignmentLine, List.append_assoc]
    exact List.splitOn_append_cons_self_of_not_mem hline rest
  rw [assignments, hsplit, List.dropLast_cons_of_ne_nil (List.splitOn_ne_nil _ _), List.map_cons, hcut]
  rfl

theorem assignments_lines {pairs : List (Text × Text)}
    (hname : ∀ pair ∈ pairs, '=' ∉ pair.1 ∧ '\n' ∉ pair.1)
    (hv : ∀ pair ∈ pairs, '\n' ∉ pair.2) :
    assignments (pairs.flatMap assignmentLine) = pairs.map some := by
  induction pairs with
  | nil => rfl
  | cons pair pairs ih =>
    obtain ⟨⟨hequals, hfeed⟩, hnames⟩ := List.forall_mem_cons.1 hname
    obtain ⟨hvalue, hvalues⟩ := List.forall_mem_cons.1 hv
    rw [List.flatMap_cons, assignments_line_append hequals hfeed hvalue, ih hnames hvalues]
    rfl

theorem notMem_of_mem_assignments {text : Text} {pair : Text × Text}
    (h : some pair ∈ assignments text) : '\n' ∉ pair.2 := by
  obtain ⟨line, hm, hcut⟩ := List.mem_map.1 h
  have hcut : Text.cutFirst? ['='] line = some (pair.1, pair.2) := hcut
  obtain ⟨rfl, -⟩ := Text.cutFirst?_singleton_eq_some_iff.1 hcut
  have hline := Text.notMem_of_mem_splitOn (List.dropLast_subset _ hm)
  intro hv
  exact hline (List.mem_append_right _ (List.mem_cons_of_mem _ hv))

theorem assignments_block_iff (outputs : Outputs) :
    assignments outputs.block = outputs.pairs.map some ↔ ∀ pair ∈ outputs.pairs, '\n' ∉ pair.2 := by
  rw [Outputs.block_eq]
  constructor
  · intro h pair hm
    have hread : some pair ∈ assignments (outputs.pairs.flatMap assignmentLine) := by
      rw [h]
      exact List.mem_map_of_mem hm
    exact notMem_of_mem_assignments hread
  · intro h
    apply assignments_lines _ h
    have hnames : ∀ name ∈ outputs.pairs.map (·.1), '=' ∉ name ∧ '\n' ∉ name := by
      have he : outputs.pairs.map (·.1) =
        ["tag", "version-code", "version-name", "build-number"] := rfl
      rw [he]
      decide
    intro pair hm
    exact hnames pair.1 (List.mem_map_of_mem hm)

theorem newline_notMem_digits (n : Int) : '\n' ∉ Numeral.digits n := by
  have hdigits := Pattern.newline_notMem (Numeral.digits_toDigits n.natAbs)
  rw [Numeral.digits]
  split
  · intro hm
    rcases List.mem_cons.1 hm with he | hm
    · cases he
    · exact hdigits hm
  · exact hdigits

theorem newline_notMem_of_write {n : Int} {text : Text} (h : Numeral.write n = .ok text) :
    '\n' ∉ text := by
  rw [Numeral.write] at h
  split at h
  · cases h
  · obtain rfl := Except.ok.inj h
    exact newline_notMem_digits n

theorem Outputs.IsOf.newline_notMem {outputs : Outputs} {stamp : Version.Stamp}
    (h : outputs.IsOf stamp) : '\n' ∉ outputs.versionCode ∧ '\n' ∉ outputs.buildNumber := by
  obtain ⟨-, hcode, -, hnumber⟩ := h
  rw [hcode, hnumber]
  constructor
  · cases stamp.code with
    | none => exact List.not_mem_nil
    | some code => exact newline_notMem_digits code
  · cases stamp.build with
    | none => exact List.not_mem_nil
    | some build => exact newline_notMem_digits build.number

variable {world : World} {inputs : Inputs} {disk : Disk} {outputs : Outputs} {effect : Effect}

theorem Succeeds.newline_notMem (h : Succeeds world inputs disk outputs effect) :
    '\n' ∉ outputs.versionCode ∧ '\n' ∉ outputs.buildNumber := by
  cases h with
  | saved hc hs hb hw ho => exact ho.newline_notMem
  | unsaved hc hs hb ho => exact ho.newline_notMem
  | version hc hs ho => exact ho.newline_notMem
  | fileName hc hf hs hn ho => exact ho.newline_notMem
  | changelogSaved => exact ⟨List.not_mem_nil, List.not_mem_nil⟩
  | changelogShown => exact ⟨List.not_mem_nil, List.not_mem_nil⟩
  | successor hc ht hn => exact ⟨List.not_mem_nil, newline_notMem_of_write hn⟩

theorem Succeeds.assignments_iff (h : Succeeds world inputs disk outputs effect) :
    assignments outputs.block = outputs.pairs.map some ↔
      '\n' ∉ outputs.tag ∧ '\n' ∉ outputs.versionName := by
  obtain ⟨hcode, hnumber⟩ := h.newline_notMem
  rw [assignments_block_iff]
  simp only [Outputs.pairs, List.forall_mem_cons, hcode, hnumber, not_false_eq_true, true_and]
  simp

/-- What a run does that ends normally and has a file for the outputs: the block of the outputs comes
after what the command has left in that file. -/
structure HandsOn (call : Call) (disk : Disk) (outputs : Outputs) (effect : Effect)
    (between : Disk) : Prop where
  succeeds : ∃ inputs, Inputs.read call.world.environment call.words = .ok inputs ∧
    Succeeds call.world inputs disk outputs effect
  handedOn : call.handedOn? disk = some outputs
  changes : effect.Changes disk between
  appended : ∃ place, disk.target? call.world.outputPath = some place ∧
    (call.run disk).disk.bytes? place =
      some ((between.bytes? place).getD [] ++ Utf8.encode outputs.block)

theorem exists_handsOn {call : Call} (hn : (call.run disk).exit = .normal)
    (hp : call.world.outputPath ≠ []) :
    ∃ outputs effect between, HandsOn call disk outputs effect between := by
  cases hr : Inputs.read call.world.environment call.words with
  | error stop => exact absurd hn (run_of_error hr disk).2.1
  | ok inputs =>
    obtain ⟨outcome, effect, between, he, hchanges, -, hends, hhanded⟩ := run_of_ok hr disk
    rw [hn] at hends hhanded
    obtain ⟨outputs, rfl⟩ := hends.exists_outputs
    refine ⟨outputs, effect, between, ?_, ?_, hchanges, ?_⟩
    · cases he with
      | done hsucceeds => exact ⟨inputs, hr, hsucceeds⟩
    · rw [hhanded, if_pos ⟨rfl, hp⟩]
      rfl
    · generalize (call.run disk).disk = left at hends
      cases hends with
      | unset hunset => exact absurd hunset hp
      | handedOn _ ha =>
        obtain ⟨-, place, hplace, rfl⟩ := Disk.appendText_eq_ok_iff.1 ha
        refine ⟨place, ?_, ?_⟩
        · rw [← hchanges.grows.target?_eq]
          exact Disk.target?_of_placeToAppend hplace
        · rw [Disk.bytes?_withFile, if_pos rfl]

/-- The outputs of a run are read back from what it appends to the file for them if and only if
neither the tag nor the version name holds a line feed. -/
theorem read_back_iff {call : Call} (hn : (call.run disk).exit = .normal)
    (hp : call.world.outputPath ≠ []) :
    ∃ outputs effect between, HandsOn call disk outputs effect between ∧
      (assignments outputs.block = outputs.pairs.map some ↔
        '\n' ∉ outputs.tag ∧ '\n' ∉ outputs.versionName) := by
  obtain ⟨outputs, effect, between, h⟩ := exists_handsOn hn hp
  obtain ⟨inputs, -, hsucceeds⟩ := h.succeeds
  exact ⟨outputs, effect, between, h, hsucceeds.assignments_iff⟩

def twoLineDisk : Disk where
  files := [(["c.json"], Utf8.encode
    ("\x7b\"outputs\": \x7b\"default\": \x7b\"useVersionsFromTag\": false, " ++
      "\"versionName\": \"1.0\\ntag=v9\"\x7d\x7d\x7d"))]

def Call.twoLine : Call :=
  ⟨.untagged [("GITHUB_OUTPUT", "out")], ["version-name", "--variant", "debug", "--config", "c.json"]⟩

/-- The second line of the version name takes the place of the tag, which is empty. -/
theorem two_lines_not_read_back : (Call.twoLine.run twoLineDisk).exit = .normal ∧
    Call.twoLine.world.outputPath ≠ [] ∧
    ∃ outputs, Call.twoLine.handedOn? twoLineDisk = some outputs ∧
      assignments outputs.block ≠ outputs.pairs.map some ∧
      some (("tag", "v9") : Text × Text) ∈ assignments outputs.block ∧
      (("tag", "v9") : Text × Text) ∉ outputs.pairs := by
  have hexit : (Call.twoLine.run twoLineDisk).exit = .normal := by decide +kernel
  have hpath : Call.twoLine.world.outputPath ≠ [] := by decide
  have hhanded : Call.twoLine.handedOn? twoLineDisk = some ⟨[], [], "1.0\ntag=v9", []⟩ := by
    decide +kernel
  obtain ⟨outputs, effect, between, h, hiff⟩ := read_back_iff hexit hpath
  obtain rfl := Option.some.inj (hhanded.symm.trans h.handedOn)
  refine ⟨hexit, hpath, _, hhanded, ?_, by decide +kernel, by decide +kernel⟩
  intro he
  exact absurd (hiff.1 he).2 (by decide)

end BuildTags.CommandLine
