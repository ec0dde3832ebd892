import TodoLedger.Proofs.Ignore.Update
import TodoLedger.Run.Ignore

/-! The number that is told about entries written. It counts what was asked for; the file grows by what is read back from
it. The two differ where a line of a source holds no entry, or more than one. -/

namespace TodoLedger.Ignore

variable {σ : Type} {s : Surroundings σ} {args : IgnoreArgs} {level : OutputLevel} {d d' : Disk} {p e t : Text}
  {es : List Text} {update : Bool}

/-! ### What is asked for -/

/-- The entries that a run is asked to write. -/
def requested (d : Disk) (args : IgnoreArgs) : List Text :=
  if args.paths then (entriesOfFiles d args.sources).value else args.sources

theorem mem_linesAsEntries : e ∈ linesAsEntries t ↔ (∃ line ∈ Text.lines t, Text.trim line = e) ∧ e ≠ [] := by
  simp [linesAsEntries]

theorem mem_entriesOfFiles {sources : List Text} : e ∈ (entriesOfFiles d sources).value ↔
    ∃ source ∈ sources, ∃ t, d.readText source = .ok t ∧ e ∈ linesAsEntries t := by
  induction sources with
  | nil => simp [entriesOfFiles]
  | cons source more ih =>
    rw [entriesOfFiles]
    cases read : d.readText source with
    | ok t => simp [read, ih]
    | error fault => simp [read, ih]

/-- The lines of files are asked for as they are when trimmed, as long as anything is left of them. -/
theorem forall_requested_iff {P : Text → Prop} (paths : args.paths = true) :
    (∀ e ∈ requested d args, P e) ↔ ∀ source ∈ args.sources, ∀ t, d.readText source = .ok t →
      ∀ line ∈ Text.lines t, Text.trim line ≠ [] → P (Text.trim line) := by
  rw [requested, if_pos paths]
  simp only [mem_entriesOfFiles, mem_linesAsEntries]
  constructor
  · intro all source listed t read line mem some_text
    exact all _ ⟨source, listed, t, read, ⟨line, mem, rfl⟩, some_text⟩
  · rintro all e ⟨source, listed, t, read, ⟨line, mem, rfl⟩, some_text⟩
    exact all source listed t read line mem some_text

theorem value_run (s : Surroundings σ) (args : IgnoreArgs) (level : OutputLevel) :
    (run s args level).value =
      match save s.disk args.output (requested s.disk args) args.update with
      | .ok d => ⟨.ok 0, if level = .nothing then [] else summary args (requested s.disk args).length, d, s.peer⟩
      | .error e => ⟨.error (.scan e), [], s.disk, s.peer⟩ := by
  rw [run, requested]
  by_cases paths : args.paths = true
  · rw [if_pos paths, if_pos paths, Log.Traced.value_bind]
    dsimp only
    cases save s.disk args.output (entriesOfFiles s.disk args.sources).value args.update <;> rfl
  · rw [if_neg paths, if_neg paths, Log.Traced.value_bind, Log.Traced.value_pure]
    dsimp only
    cases save s.disk args.output args.sources args.update <;> rfl

/-! ### What the file gains -/

theorem append_of_saved (saved : save d p es update = .ok d') : d.append p (Text.utf8 (renderEntries es)) = .ok d' := by
  cases update with
  | true => exact append_of_save saved
  | false =>
    rw [save, if_neg Bool.false_ne_true] at saved
    split at saved
    · cases saved
      exact (Disk.append_of_create ‹_›).2
    · cases saved
    · cases saved

/-- A file in UTF-8, or one that was not there, gains the entries of what is written. -/
theorem load_of_saved (prior : ∀ content, d.read p = .ok content → ∃ t, TextEncoding.utf8.Stores t content)
    (saved : save d p es update = .ok d') : ∃ before,
      (load d p = .ok (some before) ∨ load d p = .ok none ∧ before = []) ∧
      load d' p = .ok (some (before ++ parseEntries (renderEntries es))) := by
  obtain ⟨content, read, read'⟩ | ⟨missing, read'⟩ := Disk.read_append (append_of_saved saved)
  · obtain ⟨t, stored⟩ := prior content read
    have kept := stores_append stored (head?_renderEntries_ne es)
    refine ⟨parseEntries t, Or.inl (load_eq_ok_some_iff.mpr ⟨_, _, _, read, stored, rfl⟩), ?_⟩
    exact load_eq_ok_some_iff.mpr ⟨_, _, _, read', kept, (parseEntries_append_renderEntries t es).symm⟩
  · have kept : TextEncoding.utf8.Stores (renderEntries es) (Text.utf8 (renderEntries es)) :=
      Or.inr ⟨rfl, head?_renderEntries_ne es, rfl⟩
    refine ⟨[], Or.inr ⟨by rw [load, missing], rfl⟩, ?_⟩
    exact load_eq_ok_some_iff.mpr ⟨_, _, _, read', kept, rfl⟩

theorem parseEntries_renderEntries_eq (es : List Text) :
    parseEntries (renderEntries es) = (es.map Text.trim).flatMap parseEntries := by
  rw [renderEntries, parseEntries_renderAfter_eq_flatMap]
  induction es with
  | nil => rfl
  | cons e es ih =>
    rw [List.map_cons, List.flatMap_cons, ← ih]
    by_cases blank : Text.trim e = []
    · rw [written_cons_of_blank blank, blank]
      rfl
    · rw [written_cons_of_some blank, List.flatMap_cons]

/-- Entries in one line each are all read back if each holds an entry. -/
theorem length_parseEntries_renderEntries_iff (whole : ∀ e ∈ es, '\n' ∉ e) :
    (parseEntries (renderEntries es)).length = es.length ↔
      ∀ e ∈ es, Text.trim e ≠ [] ∧ (Text.trim e).head? ≠ some '#' := by
  have as_many : (es.map Text.trim).length = es.length := List.length_map _
  rw [parseEntries_renderEntries whole, written, List.filter_filter, ← as_many, List.length_filter_eq_length_iff,
    List.forall_mem_map]
  simp [and_comm]

/-- A run that succeeds on a file in UTF-8, or on none, tells how many entries it was asked to write. The file gains the
entries on the lines of these. They are as many as is told, where entries are in one line each, if and only if none of
them is blank or begins with `#`; where they are the lines of files, if and only if no line begins so behind blanks. -/
theorem told_count_of_run {code : Nat}
    (prior : ∀ content, s.disk.read args.output = .ok content → ∃ t, TextEncoding.utf8.Stores t content)
    (succeeds : (run s args level).value.result = .ok code) :
    let entries := requested s.disk args
    ∃ before after,
      (load s.disk args.output = .ok (some before) ∨ load s.disk args.output = .ok none ∧ before = []) ∧
      load (run s args level).value.disk args.output = .ok (some after) ∧
      after = before ++ (entries.map Text.trim).flatMap parseEntries ∧
      (run s args level).value.printed = (if level = .nothing then [] else summary args entries.length) ∧
      ((∀ e ∈ entries, '\n' ∉ e) → (after.length = before.length + entries.length ↔
        ∀ e ∈ entries, Text.trim e ≠ [] ∧ (Text.trim e).head? ≠ some '#')) ∧
      (args.paths = true → (after.length = before.length + entries.length ↔
        ∀ source ∈ args.sources, ∀ t, s.disk.readText source = .ok t →
          ∀ line ∈ Text.lines t, (Text.trim line).head? ≠ some '#')) := by
  intro entries
  rw [value_run] at succeeds ⊢
  cases saved : save s.disk args.output entries args.update with
  | error e =>
    rw [saved] at succeeds
    cases succeeds
  | ok d' =>
    obtain ⟨before, loaded, loaded'⟩ := load_of_saved prior saved
    have gain : (before ++ parseEntries (renderEntries entries)).length = before.length + entries.length ↔
        (parseEntries (renderEntries entries)).length = entries.length := by
      rw [List.length_append, Nat.add_left_cancel_iff]
    refine ⟨before, _, loaded, loaded', ?_, rfl, fun whole => ?_, fun paths => ?_⟩
    · rw [parseEntries_renderEntries_eq]
    · rw [gain, length_parseEntries_renderEntries_iff whole]
    · have whole : ∀ e ∈ entries, '\n' ∉ e := (forall_requested_iff paths).mpr fun _ _ _ _ line mem _ feed =>
        Text.newline_notMem_of_mem_lines mem (Text.mem_of_mem_trim feed)
      rw [gain, length_parseEntries_renderEntries_iff whole, forall_requested_iff paths]
      refine forall₅_congr fun source _ t _ line => forall_congr' fun mem => ?_
      rw [(Text.tight_trim line).trim_eq]
      constructor
      · intro entry
        by_cases blank : Text.trim line = []
        · rw [blank]
          nofun
        · exact (entry blank).2
      · exact fun plain some_text => ⟨some_text, plain⟩

/-- The lines of a file without comments, added behind an open line; a source that is missing adds nothing. -/
theorem told_count_of_lines :
    let disk : Disk := ⟨[([".todo-ignore".toList], .file (Text.utf8 "# kept\nvendor".toList)),
      ([".gitignore".toList], .file (Text.utf8 "target/\n\n  *.log\r\n".toList))], []⟩
    let s : Surroundings Unit := ⟨disk, fun _ => none, Http.Transport.closed, (), false, .unlimited⟩
    let args : IgnoreArgs := { sources := [".gitignore".toList, "missing".toList], paths := true, update := true }
    (∀ content, disk.read args.output = .ok content → ∃ t, TextEncoding.utf8.Stores t content) ∧
      (run s args .full).value.result = .ok 0 ∧
      (run s args .full).value.printed = "Updated .todo-ignore (2 entries)\n".toList ∧
      ∃ after, load (run s args .full).value.disk args.output = .ok (some after) ∧
        after = ["vendor".toList, "target/".toList, "*.log".toList] ∧ after.length = 1 + 2 := by
  intro disk s args
  have prior : ∀ content, disk.read args.output = .ok content → ∃ t, TextEncoding.utf8.Stores t content := by
    intro content read
    have held : disk.read args.output = .ok (Text.utf8 "# kept\nvendor".toList) := by decide +kernel
    cases held.symm.trans read
    exact ⟨_, Or.inr ⟨rfl, by decide, rfl⟩⟩
  have succeeds : (run s args .full).value.result = .ok 0 := by rfl
  have asked : requested disk args = ["target/".toList, "*.log".toList] := by decide +kernel
  have held : load disk args.output = .ok (some ["vendor".toList]) := by decide +kernel
  obtain ⟨before, after, loaded, loaded', gained, printed, one_line, -⟩ := told_count_of_run prior succeeds
  obtain rfl : before = ["vendor".toList] := by
    rcases loaded with loaded | ⟨missing, -⟩
    · cases held.symm.trans loaded
      rfl
    · cases held.symm.trans missing
  rw [asked] at gained printed one_line
  refine ⟨prior, succeeds, printed.trans (by decide +kernel), after, loaded', gained.trans (by decide +kernel), ?_⟩
  exact (one_line (by decide)).mpr (by decide)

/-- A comment among the lines of a file is told as an entry. -/
theorem comment_told_as_entry :
    let disk : Disk := ⟨[([".gitignore".toList], .file (Text.utf8 "# build output\ntarget\n".toList))], []⟩
    let s : Surroundings Unit := ⟨disk, fun _ => none, Http.Transport.closed, (), false, .unlimited⟩
    let args : IgnoreArgs := { sources := [".gitignore".toList], paths := true }
    (run s args .full).value.result = .ok 0 ∧ load disk args.output = .ok none ∧
      load (run s args .full).value.disk args.output = .ok (some ["target".toList]) ∧
      (run s args .full).value.printed = "Created .todo-ignore (2 entries)\n".toList ∧
      (run s args .full).value.printed ≠ summary args ["target".toList].length := by
  intro disk s args
  refine ⟨rfl, ?_⟩
  decide +kernel

end TodoLedger.Ignore
