import TodoLedger.Proofs.Scan.Files
import TodoLedger.Proofs.Text.Order

/-! What a scan accounts for. The hits of all files that can be read and decoded come back sorted, each as often as it
was found, and the counters tell what became of every file and how many hits there are of each class. -/

namespace TodoLedger.Scanner

variable {s : Scanner} {d : Disk} {base : Text} {files : List Text} {a b : Hit}

/-! ### Hits -/

theorem flatMap_scanned (s : Scanner) (d : Disk) (base : Text) (files : List Text) :
    (files.filterMap fun path => (s.scanFile d base path).toOption).flatMap (·.hits) = s.hitsIn d base files := by
  rw [← flatMap_hitsOf]
  induction files with
  | nil => rfl
  | cons path files ih =>
    rw [List.filterMap_cons, List.map_cons, List.flatMap_cons, ← ih]
    cases s.scanFile d base path <;> rfl

theorem utf8_lt_or_of_isBefore (before : isBefore a b = true) :
    Text.utf8 a.file < Text.utf8 b.file ∨ a.file = b.file ∧ a.line ≤ b.line :=
  (isBefore_iff.mp before).imp_left Text.utf8_lt

/-- Hits of one line of one file stay in the order in which they were found. -/
theorem filter_hits_run (s : Scanner) (d : Disk) (base : Text) (files : List Text) (file : Text) (line : Nat) :
    ((s.run d base files).value.hits.filter fun h => h.file = file ∧ h.line = line) =
      (s.hitsIn d base files).filter fun h => h.file = file ∧ h.line = line := by
  let there : Hit → Bool := fun h => h.file = file ∧ h.line = line
  have alike : ((s.hitsIn d base files).filter there).Pairwise fun a b => isBefore a b = true := by
    refine List.pairwise_of_forall_mem_list fun a ha b hb => isBefore_iff.mpr (Or.inr ?_)
    obtain ⟨fa, la⟩ : a.file = file ∧ a.line = line := of_decide_eq_true (List.mem_filter.mp ha).2
    obtain ⟨fb, lb⟩ : b.file = file ∧ b.line = line := of_decide_eq_true (List.mem_filter.mp hb).2
    exact ⟨fa.trans fb.symm, Nat.le_of_eq (la.trans lb.symm)⟩
  -- in order as they are, they are not moved past each other
  have kept : ((s.hitsIn d base files).filter there).Sublist (s.run d base files).value.hits := by
    rw [hits_run]
    refine List.sublist_mergeSort ?_ ?_ alike List.filter_sublist
    · exact fun _ _ _ => isBefore_trans
    · exact isBefore_total
  have inside := kept.filter there
  simp only [List.filter_filter, Bool.and_self] at inside
  exact (inside.eq_of_length ((hits_run_perm s d base files).filter there).length_eq.symm).symm

/-! ### Counters -/

theorem countP_keywords_le (hits : List Hit) :
    max (hits.countP (·.keywords.has .todo)) (hits.countP (·.keywords.has .fixme)) ≤ hits.length ∧
      hits.length ≤ hits.countP (·.keywords.has .todo) + hits.countP (·.keywords.has .fixme) := by
  refine ⟨Nat.max_le.mpr ⟨List.countP_le_length, List.countP_le_length⟩, ?_⟩
  induction hits with
  | nil => exact Nat.le_refl _
  | cons h hits ih =>
    have some_keyword : h.keywords.has .todo = true ∨ h.keywords.has .fixme = true := by
      have := h.keywords_ne_empty
      simp only [KeywordSet.isEmpty, Bool.and_eq_false_iff, Bool.not_eq_false'] at this
      exact this
    rw [List.length_cons, List.countP_cons, List.countP_cons]
    rcases some_keyword with todo | fixme
    · rw [if_pos todo]
      omega
    · rw [if_pos fixme]
      omega

/-- Each file is scanned, or cannot be decoded, or cannot be read. -/
theorem countP_scanned_add (d : Disk) (files : List Text) :
    (files.countP fun path => (d.text? path).isSome) +
        (files.countP fun path => (d.read path).toOption.any fun content => (TextEncoding.decode? content).isNone) +
      (files.countP fun path => !d.isFile path) = files.length := by
  have one : ∀ path, (if (d.text? path).isSome then 1 else 0) +
      (if (d.read path).toOption.any fun content => (TextEncoding.decode? content).isNone then 1 else 0) +
      (if !d.isFile path then 1 else 0) = 1 := by
    intro path
    rw [Disk.text?, Disk.isFile]
    cases d.read path with
    | error e => rfl
    | ok content => cases decoded : TextEncoding.decode? content <;> simp [Except.toOption, Except.toBool, decoded]
  induction files with
  | nil => rfl
  | cons path files ih =>
    have here := one path
    rw [List.countP_cons, List.countP_cons, List.countP_cons, List.length_cons]
    omega

/-- A scan returns the hits of the files that can be read and decoded, none lost and none twice, by the bytes of their
paths and by their lines; hits of one line of one path are in the order in which they were found. Every file is counted,
and either scanned or counted as a failure of its kind. Every hit is counted, once for each class of its keywords, so
each class has at most as many hits as there are, and both together have at least as many. -/
theorem run_tally (s : Scanner) (d : Disk) (base : Text) (files : List Text) :
    let result := (s.run d base files).value
    let stats := result.stats
    let found := (files.filterMap fun path => (s.scanFile d base path).toOption).flatMap (·.hits)
    result.hits.Perm found ∧
      (result.hits.Pairwise fun a b => Text.utf8 a.file < Text.utf8 b.file ∨ a.file = b.file ∧ a.line ≤ b.line) ∧
      (∀ file line, (result.hits.filter fun h => h.file = file ∧ h.line = line) =
        found.filter fun h => h.file = file ∧ h.line = line) ∧
      stats.filesScanned = files.length ∧
      stats.encodingFailures = files.countP (fun path =>
        (d.read path).toOption.any fun content => (TextEncoding.decode? content).isNone) ∧
      stats.readFailures = files.countP (fun path => !d.isFile path) ∧
      (files.countP fun path => (d.text? path).isSome) + stats.encodingFailures + stats.readFailures =
        stats.filesScanned ∧
      stats.hits = result.hits.length ∧ stats.todos = result.hits.countP (·.keywords.has .todo) ∧
      stats.fixmes = result.hits.countP (·.keywords.has .fixme) ∧ max stats.todos stats.fixmes ≤ stats.hits ∧
      stats.hits ≤ stats.todos + stats.fixmes := by
  intro result stats found
  have same : found = s.hitsIn d base files := flatMap_scanned s d base files
  have counted := stats_run_eq s d base files
  obtain ⟨each, both⟩ := countP_keywords_le result.hits
  refine ⟨same ▸ hits_run_perm s d base files, ?_, fun file line => same ▸ filter_hits_run s d base files file line, ?_⟩
  · exact (hits_run_sorted s d base files).imp utf8_lt_or_of_isBefore
  · rw [show stats = _ from counted]
    exact ⟨rfl, rfl, rfl, countP_scanned_add d files, rfl, rfl, rfl, each, both⟩

end TodoLedger.Scanner
