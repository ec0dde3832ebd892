import TodoLedger.Proofs.Inventory.Listing
import TodoLedger.Proofs.Reconciler.UntilCap
import TodoLedger.Proofs.Run.Accepted
import TodoLedger.Proofs.Run.Print
import TodoLedger.Proofs.Scan.Files

/-! What an accepted run comes to. A run that lists its hits fails if there are any, unless it is silent, and leaves the
tracker alone. A run that files them ends with an error where the cap is exceeded, and otherwise fails if there are
hits, unless it is silent, or if titles of closed issues count as failures and a hit has one. -/

namespace TodoLedger

/-! ### The gate -/

theorem Verdict.passed_ofStats {stats : RunStats} {silent failClosed : Bool} :
    (ofStats stats silent failClosed).passed = true ↔
      ¬(0 < stats.hits ∧ silent = false) ∧ ¬(0 < stats.duplicateClosed ∧ failClosed = true) := by
  simp only [passed, ofStats, List.isEmpty_iff, List.append_eq_nil_iff]
  refine and_congr ?_ ?_ <;> simp

/-! ### The inventory of a run -/

namespace Tracker

variable {σ : Type}

/-- The issues that a tracker lists, none if it cannot be read. -/
def listed (t : Tracker σ) (s : σ) : List ExistingIssue :=
  match (t.list s).result with
  | .ok issues => issues
  | .error _ => []

theorem inventory_value (t : Tracker σ) (s : σ) :
    (t.inventory s).value = (Inventory.ofIssues (t.listed s), (t.list s).state) := by
  rw [inventory, listed]
  cases (t.list s).result <;> rfl

end Tracker

namespace Check

variable {σ : Type} {s : Surroundings σ} {args : CheckArgs} {format : Format} {root : Text} {config : Config}
  {files : List Text}

/-- The issues that exist as far as a run knows. -/
def listed (s : Surroundings σ) (config : Config) : List ExistingIssue :=
  match (tracker? s config).value with
  | some t => t.listed (s.peer, [])
  | none => []

/-- What the tracker of a run has come to when the hits are decided. -/
def begun (s : Surroundings σ) (config : Config) : Filing σ :=
  match (tracker? s config).value with
  | some t => (t.list (s.peer, [])).state
  | none => (s.peer, [])

/-- What decides the hits of a run. -/
def reconciler (s : Surroundings σ) (config : Config) : Reconciler (Filing σ) :=
  ⟨(tracker? s config).value, Inventory.ofIssues (listed s config), config.maxIssues⟩

theorem fileHits_value (s : Surroundings σ) (config : Config) (scan : ScanResult) : (fileHits s config scan).value =
    let ((decisions, stop), q) :=
      ((reconciler s config).decideUntilCap (.start scan.stats (begun s config)) scan.hits).value
    ⟨decisions, stop, q.stats, q.state.1⟩ := by
  rw [fileHits, reconciler, begun, listed]
  simp only [Log.Traced.value_bind]
  cases (tracker? s config).value with
  | none => rfl
  | some t =>
    simp only [Log.Traced.value_bind, Tracker.inventory_value]
    rfl

/-- A new hit is met when as many issues have been filed as the settings allow. -/
def ExceedsCap (s : Surroundings σ) (config : Config) (scan : ScanResult) : Prop :=
  (reconciler s config).MeetsCap (.start scan.stats (begun s config)) scan.hits

/-- What filing the hits of a scan comes to. -/
theorem fileHits_cases (s : Surroundings σ) (config : Config) (scan : ScanResult) :
    let filed := (fileHits s config scan).value
    filed.stats = scan.stats.withDecisions filed.decisions ∧
      (filed.stop = some ⟨config.maxIssues⟩ ∧ ExceedsCap s config scan ∨
        filed.stop = none ∧ ¬ExceedsCap s config scan ∧
          (.duplicateClosed ∈ filed.decisions ↔
            ∃ h ∈ scan.hits, Inventory.OnlyClosed (listed s config) h.fingerprint)) := by
  obtain ⟨ds, stop, q, value, stats, cases⟩ :=
    (reconciler s config).decideUntilCap_cases scan.stats (begun s config) scan.hits
  simp only [fileHits_value, value]
  refine ⟨stats, cases.imp id fun ⟨ended, below, known⟩ => ⟨ended, below, known.trans ?_⟩⟩
  simp only [reconciler, Inventory.state?_ofIssues_eq_closed_iff]

/-! ### The result -/

theorem run_value {c : Checked σ} (level : OutputLevel) (performed : (perform s args).run.value = .ok c) :
    (run s args level).value = ⟨c.result, print level s.color c, c.disk, c.peer⟩ := by
  rw [run, Log.Traced.value_bind, performed]
  rfl

theorem Checked.result_eq_ok_zero_iff {c : Checked σ} :
    c.result = .ok 0 ↔ c.stop = none ∧ c.report.verdict.passed = true := by
  rw [result]
  cases c.stop <;> cases c.report.verdict.passed <;> simp

theorem Checked.result_eq_ok_one_iff {c : Checked σ} :
    c.result = .ok 1 ↔ c.stop = none ∧ ¬c.report.verdict.passed = true := by
  rw [result]
  cases c.stop <;> cases c.report.verdict.passed <;> simp

theorem Checked.result_eq_cap_iff {c : Checked σ} {e : CapExceeded} : c.result = .error (.cap e) ↔ c.stop = some e := by
  rw [result]
  cases c.stop <;> simp

section Conclude
variable (s : Surroundings σ) (args : CheckArgs) (format : Format) (root : Text) (config : Config) (files : List Text)

theorem conclude_listing (print : args.issue = false) :
    (conclude s args format root config files).stop = none ∧
      (conclude s args format root config files).report.decisions = [] ∧
      (conclude s args format root config files).report.stats = (scan s root config files).stats ∧
      (conclude s args format root config files).peer = s.peer := by
  simp [conclude, filed, print]

theorem conclude_filing (issue : args.issue = true) :
    (conclude s args format root config files).stop = (fileHits s config (scan s root config files)).value.stop ∧
      (conclude s args format root config files).report.decisions =
        (fileHits s config (scan s root config files)).value.decisions ∧
      (conclude s args format root config files).report.stats =
        (fileHits s config (scan s root config files)).value.stats := by
  simp [conclude, filed, issue]

/-- The counters of a run are those of its scan with its decisions. -/
theorem stats_conclude : (conclude s args format root config files).report.stats =
    (scan s root config files).stats.withDecisions (conclude s args format root config files).report.decisions := by
  cases issue : args.issue with
  | false =>
    obtain ⟨-, decisions, stats, -⟩ := conclude_listing s args format root config files issue
    rw [stats, decisions]
    rfl
  | true =>
    obtain ⟨-, decisions, stats⟩ := conclude_filing s args format root config files issue
    rw [stats, decisions]
    exact (fileHits_cases s config (scan s root config files)).1

/-- The counters that the gate reads: how many hits there are, and how many were decided to be closed duplicates. -/
theorem gate_counters :
    (conclude s args format root config files).report.stats.hits = (scan s root config files).hits.length ∧
      (conclude s args format root config files).report.stats.duplicateClosed =
        (conclude s args format root config files).report.decisions.count .duplicateClosed := by
  obtain ⟨hits, undecided⟩ := (Scanner.new config.contextLimit config.ignoreFlag).stats_run s.disk root files
  rw [stats_conclude]
  refine ⟨hits, ?_⟩
  exact (congrArg (· + _) undecided.duplicateClosed).trans (Nat.zero_add _)

theorem passed_conclude_iff : (conclude s args format root config files).report.verdict.passed = true ↔
    ¬((scan s root config files).hits ≠ [] ∧ args.silent = false ∨ config.failClosedDuplicates = true ∧
      .duplicateClosed ∈ (conclude s args format root config files).report.decisions) := by
  obtain ⟨hits, closed⟩ := gate_counters s args format root config files
  have verdict : (conclude s args format root config files).report.verdict = Verdict.ofStats
      (conclude s args format root config files).report.stats args.silent config.failClosedDuplicates := rfl
  rw [verdict, Verdict.passed_ofStats, hits, closed, List.length_pos_iff, List.count_pos_iff, not_or,
    and_comm (b := config.failClosedDuplicates = true)]

/-- A run is stopped exactly if it files its hits and exceeds the cap. -/
theorem stop_conclude_cases :
    (conclude s args format root config files).stop = some ⟨config.maxIssues⟩ ∧
        args.issue = true ∧ ExceedsCap s config (scan s root config files) ∨
      (conclude s args format root config files).stop = none ∧
        ¬(args.issue = true ∧ ExceedsCap s config (scan s root config files)) := by
  cases issue : args.issue with
  | false => exact Or.inr ⟨(conclude_listing s args format root config files issue).1, by simp⟩
  | true =>
    obtain ⟨same, -, -⟩ := conclude_filing s args format root config files issue
    obtain ⟨-, ⟨stop, exceeded⟩ | ⟨stop, within, -⟩⟩ := fileHits_cases s config (scan s root config files)
    · exact Or.inl ⟨same.trans stop, rfl, exceeded⟩
    · exact Or.inr ⟨same.trans stop, fun h => within h.2⟩

theorem stop_conclude_eq_some_iff : (conclude s args format root config files).stop = some ⟨config.maxIssues⟩ ↔
    args.issue = true ∧ ExceedsCap s config (scan s root config files) := by
  rcases stop_conclude_cases s args format root config files with ⟨stop, exceeded⟩ | ⟨stop, within⟩
  · exact iff_of_true stop exceeded
  · exact iff_of_false (by simp [stop]) within

theorem stop_conclude_eq_none_iff : (conclude s args format root config files).stop = none ↔
    ¬(args.issue = true ∧ ExceedsCap s config (scan s root config files)) := by
  rcases stop_conclude_cases s args format root config files with ⟨stop, exceeded⟩ | ⟨stop, within⟩
  · exact iff_of_false (by simp [stop]) (Classical.not_not.mpr exceeded)
  · exact iff_of_true stop within

/-- If all hits were decided, there is a closed duplicate for each title that only closed issues have. -/
theorem closed_decided_iff (issue : args.issue = true)
    (ended : (conclude s args format root config files).stop = none) :
    .duplicateClosed ∈ (conclude s args format root config files).report.decisions ↔
      ∃ h ∈ (scan s root config files).hits, Inventory.OnlyClosed (listed s config) h.fingerprint := by
  obtain ⟨same, decisions, -⟩ := conclude_filing s args format root config files issue
  obtain ⟨-, ⟨stop, -⟩ | ⟨-, -, known⟩⟩ := fileHits_cases s config (scan s root config files)
  · cases (same.trans stop).symm.trans ended
  · rw [decisions, known]

end Conclude

/-- The result of an accepted run. Its hits are those of the files that can be read and decoded, in the order of files
and lines.

A run that lists its hits calls no tracker; it ends with 1 if it is not silent and one of these files has a line that is
not exempt and holds a directive, and with 0 otherwise. A run that files its hits ends with an error exactly if a new
hit is met after as many issues as the settings allow. Otherwise it ends with 1 if it is not silent and there are hits,
or if closed duplicates count as failures and the issues listed with the title of a hit are all closed, and with 0 if
not. -/
theorem result_of_accepted (accepted : Accepted s args format root config files) (level : OutputLevel) :
    let scanner := Scanner.new config.contextLimit config.ignoreFlag
    let scan := scan s root config files
    let ended := run s args level
    let found := ∃ path ∈ files, ∃ text, s.disk.text? path = some text ∧ ∃ line ∈ Text.lines text,
      scanner.isExempt line = false ∧ ((Language.ofExtension (Path.extension path)).parse? line).isSome
    let reopened := ∃ h ∈ scan.hits, Inventory.OnlyClosed (listed s config) h.fingerprint
    scan.hits.Perm (scanner.hitsIn s.disk root files) ∧
      scan.hits.Pairwise (fun a b => Scanner.isBefore a b = true) ∧
      (args.issue = false →
        (∀ other : Http.Transport σ, run { s with transport := other } args level = ended) ∧
        ended.Spares reconcileTarget ∧ ended.value.peer = s.peer ∧
        (ended.value.result = .ok 1 ↔ args.silent = false ∧ found) ∧
        (ended.value.result = .ok 0 ↔ ¬(args.silent = false ∧ found))) ∧
      (args.issue = true →
        (ended.value.result = .error (.cap ⟨config.maxIssues⟩) ↔ ExceedsCap s config scan) ∧
        (ended.value.result = .ok 1 ↔ ¬ExceedsCap s config scan ∧
          (scan.hits ≠ [] ∧ args.silent = false ∨ config.failClosedDuplicates = true ∧ reopened)) ∧
        (ended.value.result = .ok 0 ↔ ¬ExceedsCap s config scan ∧
          ¬(scan.hits ≠ [] ∧ args.silent = false ∨ config.failClosedDuplicates = true ∧ reopened))) := by
  intro scanner scan ended found reopened
  have some_hit : scan.hits ≠ [] ↔ found := Scanner.hits_run_ne_nil_iff
  have performed := perform_eq_ok_iff.mpr ⟨format, root, config, files, accepted, rfl⟩
  have value := run_value level performed
  refine ⟨scanner.hits_run_perm s.disk root files, scanner.hits_run_sorted s.disk root files, fun print => ?_,
    fun issue => ?_⟩
  · obtain ⟨alike, untold⟩ := run_of_print s level print
    obtain ⟨stop, decisions, -, peer⟩ := conclude_listing s args format root config files print
    have passed : (conclude s args format root config files).report.verdict.passed = true ↔
        ¬(args.silent = false ∧ found) := by
      rw [passed_conclude_iff, decisions, some_hit, and_comm]
      simp
    rw [value]
    refine ⟨alike, untold, peer, ?_, ?_⟩
    · rw [Checked.result_eq_ok_one_iff, passed, Classical.not_not, and_iff_right stop]
    · rw [Checked.result_eq_ok_zero_iff, passed, and_iff_right stop]
  · -- closed duplicates are known to be all found only where no hit was left undecided
    have stopped : (conclude s args format root config files).stop = some ⟨config.maxIssues⟩ ↔
        ExceedsCap s config scan :=
      (stop_conclude_eq_some_iff s args format root config files).trans (and_iff_right issue)
    have ended : (conclude s args format root config files).stop = none ↔ ¬ExceedsCap s config scan :=
      (stop_conclude_eq_none_iff s args format root config files).trans (not_congr (and_iff_right issue))
    have passed : ¬ExceedsCap s config scan →
        ((conclude s args format root config files).report.verdict.passed = true ↔
          ¬(scan.hits ≠ [] ∧ args.silent = false ∨ config.failClosedDuplicates = true ∧ reopened)) := by
      intro within
      rw [passed_conclude_iff, closed_decided_iff s args format root config files issue (ended.mpr within)]
    rw [value]
    refine ⟨Checked.result_eq_cap_iff.trans stopped, ?_, ?_⟩
    · rw [Checked.result_eq_ok_one_iff, ended]
      refine and_congr_right fun within => ?_
      rw [passed within, Classical.not_not]
    · rw [Checked.result_eq_ok_zero_iff, ended]
      exact and_congr_right passed

/-- Two files can be read, a third cannot. When hits are filed, the second hit has the title of the first, and the third
one, in the other file, exceeds a cap of one even in a silent run; listing the same hits fails. -/
theorem run_stops_at_second_title :
    let disk := ((Disk.empty.write "/r/a.py".toList
      (Text.utf8 "# TODO one\n# TODO # todoon\n\t# TODO one".toList)).write
        "/r/b.sh".toList (Text.utf8 "# FIXME two".toList)).write "/r/c.py".toList [0xC3]
    let s : Surroundings Unit := ⟨disk, fun _ => none, Http.Transport.closed, (), false, .unlimited⟩
    let files := ["/r/a.py".toList, "/r/b.sh".toList, "/r/c.py".toList]
    let filing : CheckArgs := { files, root := "/r".toList, issue := true, silent := true, dryRun := true }
    let config : Config := { maxIssues := 1, dryRun := true }
    Accepted s { filing with maxIssues := some 1 } .pretty "/r".toList config files ∧
      (run s { filing with maxIssues := some 1 } .full).value.result = .error (.cap ⟨1⟩) ∧
      Accepted s { filing with maxIssues := some 1, issue := false, silent := false } .pretty "/r".toList config files ∧
      (run s { filing with maxIssues := some 1, issue := false, silent := false } .full).value.result = .ok 1 := by
  intro disk s files filing config
  have accepted : Accepted s { filing with maxIssues := some 1 } .pretty "/r".toList config files :=
    ⟨by decide +kernel, rfl, rfl, rfl⟩
  have accepted' : Accepted s { filing with maxIssues := some 1, issue := false, silent := false } .pretty "/r".toList
    config files := ⟨by decide +kernel, rfl, rfl, rfl⟩
  obtain ⟨-, -, -, when_filing⟩ := result_of_accepted accepted .full
  obtain ⟨-, -, when_listing, -⟩ := result_of_accepted accepted' .full
  refine ⟨accepted, (when_filing rfl).1.mpr ?_, accepted', (when_listing rfl).2.2.2.1.mpr ⟨rfl, ?_⟩⟩
  · let hits := (Scanner.new config.contextLimit config.ignoreFlag).hitsIn disk "/r".toList files
    have found : (scan s "/r".toList config files).hits = hits := Scanner.hits_run_of_sorted (by decide +kernel)
    rw [ExceedsCap, found]
    exact ⟨hits.take 2, hits.get ⟨2, by decide +kernel⟩, [], by decide +kernel, by decide +kernel, by decide +kernel,
      by decide +kernel⟩
  · exact ⟨"/r/b.sh".toList, by decide, "# FIXME two".toList, by decide +kernel, "# FIXME two".toList,
      by decide +kernel, by decide +kernel, by decide +kernel⟩

end Check
end TodoLedger
