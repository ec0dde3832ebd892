import TodoLedger.Proofs.Scan.Hits
import TodoLedger.Scan.Result

/-! The hits of files. A scan finds the hits of the files that can be read and decoded, in the order of files and
lines, and nothing else of the others than that they are counted. -/

namespace TodoLedger

/-- The text of a file that can be read and decoded. -/
def Disk.text? (d : Disk) (path : Text) : Option Text :=
  (d.read path).toOption.bind fun content => (TextEncoding.decode? content).map (·.1)

/-- No hit has been decided. -/
structure RunStats.Undecided (s : RunStats) : Prop where
  issuesFiled : s.issuesFiled = 0
  issueFailures : s.issueFailures = 0
  duplicatesAvoided : s.duplicatesAvoided = 0
  duplicateClosed : s.duplicateClosed = 0

namespace Scanner

variable {s : Scanner} {d : Disk} {base path : Text} {files : List Text} {h : Hit} {a b c : Hit}

/-- The hits of files in the order in which the files are given. -/
def hitsIn (s : Scanner) (d : Disk) (base : Text) (files : List Text) : List Hit :=
  files.flatMap fun path => ((d.text? path).map (s.hits (reportedPath base path) (Path.extension path))).getD []

/-! ### The order of hits -/

theorem isBefore_iff : isBefore a b = true ↔ a.file < b.file ∨ a.file = b.file ∧ a.line ≤ b.line := by
  simp [isBefore, Text.precedes]

theorem isBefore_trans (hab : isBefore a b = true) (hbc : isBefore b c = true) : isBefore a c = true := by
  rw [isBefore_iff] at *
  rcases hab with hab | ⟨hab, lab⟩ <;> rcases hbc with hbc | ⟨hbc, lbc⟩
  · exact Or.inl (List.lt_trans hab hbc)
  · exact Or.inl (hbc ▸ hab)
  · exact Or.inl (hab ▸ hbc)
  · exact Or.inr ⟨hab.trans hbc, Nat.le_trans lab lbc⟩

theorem isBefore_total (a b : Hit) : (isBefore a b || isBefore b a) = true := by
  rw [Bool.or_eq_true, isBefore_iff, isBefore_iff]
  by_cases hab : a.file < b.file
  · exact Or.inl (Or.inl hab)
  · by_cases hba : b.file < a.file
    · exact Or.inr (Or.inl hba)
    · have same : a.file = b.file := List.le_antisymm hba hab
      rcases Nat.le_total a.line b.line with lab | lba
      · exact Or.inl (Or.inr ⟨same, lab⟩)
      · exact Or.inr (Or.inr ⟨same.symm, lba⟩)

/-! ### What a scan finds -/

theorem hitsOf_scanFile (s : Scanner) (d : Disk) (base path : Text) : hitsOf (s.scanFile d base path) =
    ((d.text? path).map (s.hits (reportedPath base path) (Path.extension path))).getD [] := by
  rw [scanFile, Disk.text?]
  cases d.read path with
  | error e => rfl
  | ok content =>
    simp only [Except.toOption, Option.bind_some]
    cases TextEncoding.decode? content with
    | none => rfl
    | some decoded => rfl

theorem flatMap_hitsOf (s : Scanner) (d : Disk) (base : Text) (files : List Text) :
    (files.map (s.scanFile d base)).flatMap hitsOf = s.hitsIn d base files := by
  simp only [List.flatMap_map, hitsOf_scanFile, hitsIn]

theorem hits_run (s : Scanner) (d : Disk) (base : Text) (files : List Text) :
    (s.run d base files).value.hits = (s.hitsIn d base files).mergeSort isBefore :=
  congrArg (·.mergeSort isBefore) (flatMap_hitsOf s d base files)

theorem hits_run_perm (s : Scanner) (d : Disk) (base : Text) (files : List Text) :
    (s.run d base files).value.hits.Perm (s.hitsIn d base files) := by
  rw [hits_run]
  exact List.mergeSort_perm _ _

theorem hits_run_sorted (s : Scanner) (d : Disk) (base : Text) (files : List Text) :
    (s.run d base files).value.hits.Pairwise fun a b => isBefore a b = true := by
  rw [hits_run]
  refine List.pairwise_mergeSort ?_ ?_ _
  · exact fun _ _ _ => isBefore_trans
  · exact isBefore_total

theorem mem_hitsIn_iff : h ∈ s.hitsIn d base files ↔ ∃ path ∈ files, ∃ text, d.text? path = some text ∧
    h ∈ s.hits (reportedPath base path) (Path.extension path) text := by
  rw [hitsIn, List.mem_flatMap]
  constructor
  · rintro ⟨path, hp, hh⟩
    cases ht : d.text? path with
    | none => simp [ht] at hh
    | some text =>
      rw [ht, Option.map_some, Option.getD_some] at hh
      exact ⟨path, hp, text, ht, hh⟩
  · rintro ⟨path, hp, text, ht, hh⟩
    refine ⟨path, hp, ?_⟩
    rw [ht]
    exact hh

/-- There is a hit where a file that can be read and decoded has a line that is not exempt and holds a directive. -/
theorem hits_run_ne_nil_iff : (s.run d base files).value.hits ≠ [] ↔
    ∃ path ∈ files, ∃ text, d.text? path = some text ∧ ∃ line ∈ Text.lines text, s.isExempt line = false ∧
      ((Language.ofExtension (Path.extension path)).parse? line).isSome := by
  have found : ∀ h, h ∈ (s.run d base files).value.hits ↔ h ∈ s.hitsIn d base files :=
    fun h => (hits_run_perm s d base files).mem_iff
  constructor
  · intro some_hit
    obtain ⟨h, hh⟩ := List.exists_mem_of_ne_nil _ some_hit
    obtain ⟨path, hp, text, ht, hh⟩ := mem_hitsIn_iff.mp ((found h).mp hh)
    obtain ⟨i, line, directive, hl, kept, hd, -⟩ := mem_hits_iff.mp hh
    exact ⟨path, hp, text, ht, line, List.mem_of_getElem? hl, kept, Option.isSome_iff_exists.mpr ⟨directive, hd⟩⟩
  · rintro ⟨path, hp, text, ht, line, hl, kept, hd⟩
    obtain ⟨i, hl⟩ := List.mem_iff_getElem?.mp hl
    obtain ⟨directive, hd⟩ := Option.isSome_iff_exists.mp hd
    have hh : _ ∈ s.hits (reportedPath base path) (Path.extension path) text :=
      mem_hits_iff.mpr ⟨i, line, directive, hl, kept, hd, rfl⟩
    exact List.ne_nil_of_mem ((found _).mpr (mem_hitsIn_iff.mpr ⟨path, hp, text, ht, hh⟩))

/-- Hits that stand in order already are left as they are. -/
theorem hits_run_of_sorted (sorted : (s.hitsIn d base files).Pairwise fun a b => isBefore a b = true) :
    (s.run d base files).value.hits = s.hitsIn d base files := by
  rw [hits_run, List.mergeSort_of_pairwise sorted]

/-! ### The counters of a scan -/

theorem recordHit_foldl (stats : RunStats) (hits : List Hit) :
    hits.foldl RunStats.recordHit stats = { stats with
      hits := stats.hits + hits.length
      todos := stats.todos + hits.countP (·.keywords.todo)
      fixmes := stats.fixmes + hits.countP (·.keywords.fixme) } := by
  induction hits generalizing stats with
  | nil => rfl
  | cons h hits ih =>
    rw [List.foldl_cons, ih (stats.recordHit h), RunStats.mk.injEq]
    simp only [RunStats.recordHit, List.length_cons, List.countP_cons, true_and, and_true]
    omega

/-- A file that could not be decoded. -/
def undecoded : Except ScanError ScannedFile → Bool
  | .error (.unsupportedEncoding _) => true
  | _ => false

/-- A file that was not even read. -/
def unread : Except ScanError ScannedFile → Bool
  | .error (.unsupportedEncoding _) => false
  | .error _ => true
  | .ok _ => false

theorem recordFile_foldl (stats : RunStats) (outcomes : List (Except ScanError ScannedFile)) :
    outcomes.foldl recordFile stats = { stats with
      encodingFailures := stats.encodingFailures + outcomes.countP undecoded
      readFailures := stats.readFailures + outcomes.countP unread
      hits := stats.hits + (outcomes.flatMap hitsOf).length
      todos := stats.todos + (outcomes.flatMap hitsOf).countP (·.keywords.todo)
      fixmes := stats.fixmes + (outcomes.flatMap hitsOf).countP (·.keywords.fixme) } := by
  induction outcomes generalizing stats with
  | nil => rfl
  | cons outcome outcomes ih =>
    rw [List.foldl_cons, ih, RunStats.mk.injEq]
    simp only [List.flatMap_cons, List.length_append, List.countP_append, List.countP_cons]
    cases outcome with
    | ok f =>
      simp only [recordFile, recordHit_foldl, hitsOf, undecoded, unread, Bool.false_eq_true, if_false, Nat.add_zero,
        true_and, and_true]
      omega
    | error e =>
      cases e <;> simp [recordFile, hitsOf, undecoded, unread] <;> omega

theorem undecoded_scanFile (s : Scanner) (d : Disk) (base path : Text) : undecoded (s.scanFile d base path) =
    (d.read path).toOption.any fun content => (TextEncoding.decode? content).isNone := by
  rw [scanFile]
  cases d.read path with
  | error e => rfl
  | ok content =>
    simp only [Except.toOption, Option.any_some]
    cases TextEncoding.decode? content <;> rfl

theorem unread_scanFile (s : Scanner) (d : Disk) (base path : Text) :
    unread (s.scanFile d base path) = !d.isFile path := by
  rw [scanFile, Disk.isFile]
  cases d.read path with
  | error e => rfl
  | ok content =>
    dsimp only
    cases TextEncoding.decode? content <;> rfl

/-- Every counter of a scan. -/
theorem stats_run_eq (s : Scanner) (d : Disk) (base : Text) (files : List Text) :
    let hits := (s.run d base files).value.hits
    (s.run d base files).value.stats = {
      filesScanned := files.length
      encodingFailures := files.countP fun path =>
        (d.read path).toOption.any fun content => (TextEncoding.decode? content).isNone
      readFailures := files.countP fun path => !d.isFile path
      hits := hits.length
      todos := hits.countP (·.keywords.todo)
      fixmes := hits.countP (·.keywords.fixme) } := by
  intro hits
  have found : (files.map (s.scanFile d base)).flatMap hitsOf = s.hitsIn d base files := flatMap_hitsOf s d base files
  have perm : hits.Perm (s.hitsIn d base files) := hits_run_perm s d base files
  have stats := recordFile_foldl { filesScanned := files.length } (files.map (s.scanFile d base))
  refine stats.trans ?_
  simp only [found, List.countP_map, perm.length_eq, perm.countP_eq, Nat.zero_add, Function.comp_def,
    undecoded_scanFile, unread_scanFile]

/-- A scan counts its hits, and no decisions. -/
theorem stats_run (s : Scanner) (d : Disk) (base : Text) (files : List Text) :
    (s.run d base files).value.stats.hits = (s.run d base files).value.hits.length ∧
      (s.run d base files).value.stats.Undecided := by
  rw [stats_run_eq]
  exact ⟨rfl, ⟨rfl, rfl, rfl, rfl⟩⟩

end Scanner
end TodoLedger
