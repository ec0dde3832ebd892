import TodoLedger.Proofs.Run.Gate
import TodoLedger.Run.Program

/-! Reports and exit codes. A report tells whether the gate was passed, and the exit code whether the run came to its
end as well. The two agree but for silent runs that are stopped at the cap. -/

namespace TodoLedger

/-! ### What a report says -/

namespace Report

/-- The report for people ends with the status of the verdict. -/
theorem renderPretty_ends (color short : Bool) (r : Report) :
    ∃ front, r.renderPretty color short = front ++ (statusLines color r.verdict ++ ['\n']) :=
  ⟨_, List.append_assoc _ _ _⟩

theorem statusLines_eq_pass_iff (color : Bool) (v : Verdict) :
    statusLines color v = "  ".toList ++ paint color .green "✓ PASS".toList ++ ['\n'] ↔ v.passed = true := by
  rw [statusLines]
  cases v.passed with
  | true => simp
  | false =>
    refine iff_of_false (fun same => ?_) (by simp)
    -- the marks differ, or before them the colours
    cases color with
    | false =>
      have marks : some '✗' = some '✓' := congrArg (·[2]?) same
      cases marks
    | true =>
      have colours : some '1' = some '2' := congrArg (·[5]?) same
      cases colours

end Report

namespace Check

variable {σ : Type} {s : Surroundings σ} {args : CheckArgs} {format : Format} {root : Text} {config : Config}
  {files : List Text}

theorem hits_ne_nil_of_exceedsCap {scan : ScanResult} (exceeded : ExceedsCap s config scan) : scan.hits ≠ [] := by
  obtain ⟨done, h, later, split, -⟩ := exceeded
  simp [split]

/-- A run passes the gate and is stopped nonetheless if it is silent and no closed duplicate counts as a failure. -/
theorem passed_and_stopped_iff (format : Format) :
    (conclude s args format root config files).report.verdict.passed = true ∧
      (conclude s args format root config files).stop ≠ none ↔
    args.issue = true ∧ ExceedsCap s config (scan s root config files) ∧ args.silent = true ∧
      (config.failClosedDuplicates = true →
        .duplicateClosed ∉ (conclude s args format root config files).report.decisions) := by
  have stopped : (conclude s args format root config files).stop ≠ none ↔ _ :=
    (not_congr (stop_conclude_eq_none_iff s args format root config files)).trans Classical.not_not
  rw [passed_conclude_iff, stopped, not_or, not_and, not_and]
  constructor
  · rintro ⟨⟨silent, none_closed⟩, issue, exceeded⟩
    have silent := silent (hits_ne_nil_of_exceedsCap exceeded)
    exact ⟨issue, exceeded, by simpa using silent, none_closed⟩
  · rintro ⟨issue, exceeded, silent, none_closed⟩
    exact ⟨⟨fun _ => by simp [silent], none_closed⟩, issue, exceeded⟩

end Check

namespace Program

variable {σ : Type} {s : Surroundings σ} {words : List Text} {line : CommandLine} {args : CheckArgs}
  {c : Check.Checked σ}

/-- What the program leaves of a run that came to its report. -/
theorem run_check (parsed : CommandLine.parse words = .ok line) (check : line.command = .check args)
    (performed : (Check.perform s args).run.value = .ok c) :
    (run s words).printed = Check.print line.outputLevel s.color c ∧
      (run s words).exitCode = match c.result with
        | .ok code => code
        | .error _ => RunError.exitCode := by
  have value := Check.run_value line.outputLevel performed
  simp only [run, parsed, command, check, value]
  cases c.result <;> exact ⟨rfl, rfl⟩

/-- The exit code is zero if the result is, and then only if the run passed the gate and was not stopped. The report
for programs and the status at the end of that for people tell whether the gate was passed. So they agree with the exit
code unless a run that files its hits is silent and stopped at the cap, and no closed duplicate before that counts as a
failure. -/
theorem report_agrees_with_exitCode_iff (parsed : CommandLine.parse words = .ok line)
    (check : line.command = .check args) (performed : (Check.perform s args).run.value = .ok c) :
    let finished := run s words
    let passed := c.report.document.passed
    finished.printed = Check.print line.outputLevel s.color c ∧
      (∀ color short, ∃ front,
        c.report.renderPretty color short = front ++ (Report.statusLines color c.report.verdict ++ ['\n']) ∧
        (Report.statusLines color c.report.verdict =
          "  ".toList ++ Report.paint color .green "✓ PASS".toList ++ ['\n'] ↔ passed = true)) ∧
      (finished.exitCode = 0 ↔ (Check.run s args line.outputLevel).value.result = .ok 0) ∧
      (finished.exitCode = 0 ↔ passed = true ∧ c.stop = none) ∧
      ∃ format root config files, Check.Accepted s args format root config files ∧
        ((passed = true ↔ finished.exitCode = 0) ↔
          ¬(args.issue = true ∧ Check.ExceedsCap s config (Check.scan s root config files) ∧ args.silent = true ∧
            (config.failClosedDuplicates = true → .duplicateClosed ∉ c.report.decisions))) := by
  intro finished passed
  obtain ⟨printed, code⟩ := run_check parsed check performed
  have ended : finished.exitCode = 0 ↔ c.result = .ok 0 := by
    rw [code]
    cases c.result with
    | ok n => simp
    | error e => simp [RunError.exitCode]
  have zero : finished.exitCode = 0 ↔ passed = true ∧ c.stop = none :=
    ended.trans (Check.Checked.result_eq_ok_zero_iff.trans and_comm)
  refine ⟨printed, fun color short => ?_, ?_, zero, ?_⟩
  · obtain ⟨front, ends⟩ := Report.renderPretty_ends color short c.report
    exact ⟨front, ends, Report.statusLines_eq_pass_iff color c.report.verdict⟩
  · rw [ended, Check.run_value line.outputLevel performed]
  · obtain ⟨format, root, config, files, accepted, rfl⟩ := Check.perform_eq_ok_iff.mp performed
    refine ⟨format, root, config, files, accepted, ?_⟩
    rw [zero]
    refine Iff.trans ?_ (not_congr (Check.passed_and_stopped_iff format))
    rw [not_and, ne_eq, Classical.not_not, iff_self_and]
    rfl

/-- A run that is not silent and exceeds its cap fails in its report as well. -/
theorem report_agrees_when_not_silent :
    let disk : Disk := { Disk.empty.write "/r/a.py".toList (Text.utf8 "# TODO one\n# TODO two\n".toList) with
      current := ["r".toList] }
    let s : Surroundings Unit := ⟨disk, fun _ => none, Http.Transport.closed, (), false, .unlimited⟩
    let words := ["check", "-i", "--dry-run", "--max-issues", "1", "--format", "json", "a.py"].map String.toList
    let args : CheckArgs :=
      { files := ["a.py".toList], issue := true, format := "json".toList, maxIssues := some 1, dryRun := true }
    ∃ line c, CommandLine.parse words = .ok line ∧ line.command = .check args ∧
      (Check.perform s args).run.value = .ok c ∧ (c.report.document.passed = true ↔ (run s words).exitCode = 0) := by
  intro disk s words args
  have parsed : CommandLine.parse words = .ok { command := .check args } := by decide +kernel
  have performed : (Check.perform s args).run.value = .ok (Check.conclude s args .document "/r".toList
      { maxIssues := 1, dryRun := true } ["/r/a.py".toList]) :=
    Check.perform_eq_ok_iff.mpr ⟨_, _, _, _, ⟨by decide +kernel, rfl, rfl, rfl⟩, rfl⟩
  obtain ⟨-, -, -, -, _, _, _, _, -, agree⟩ := report_agrees_with_exitCode_iff parsed rfl performed
  refine ⟨_, _, parsed, rfl, performed, agree.mpr ?_⟩
  rintro ⟨-, -, silent, -⟩
  cases silent

/-- The report of a silent run passes though the run ends with an error: it files the first of two new titles and is
stopped at the second. -/
theorem report_passes_when_stopped :
    let disk : Disk := { Disk.empty.write "/r/a.py".toList (Text.utf8 "# TODO one\n# TODO two\n".toList) with
      current := ["r".toList] }
    let s : Surroundings Unit := ⟨disk, fun _ => none, Http.Transport.closed, (), false, .unlimited⟩
    let words := ["check", "-i", "-s", "--dry-run", "--max-issues", "1", "--format", "json", "a.py"].map String.toList
    ∃ line args c, CommandLine.parse words = .ok line ∧ line.command = .check args ∧
      (Check.perform s args).run.value = .ok c ∧ c.report.document.passed = true ∧ c.result = .error (.cap ⟨1⟩) ∧
      (run s words).printed = c.report.renderDocument ∧ (run s words).exitCode = 2 := by
  intro disk s words
  let args : CheckArgs :=
    { files := ["a.py".toList], issue := true, silent := true, format := "json".toList, maxIssues := some 1,
      dryRun := true }
  let config : Config := { maxIssues := 1, dryRun := true }
  let files := ["/r/a.py".toList]
  have parsed : CommandLine.parse words = .ok { command := .check args } := by decide +kernel
  have performed : (Check.perform s args).run.value =
      .ok (Check.conclude s args .document "/r".toList config files) :=
    Check.perform_eq_ok_iff.mpr ⟨_, _, _, _, ⟨by decide +kernel, rfl, rfl, rfl⟩, rfl⟩
  have exceeded : Check.ExceedsCap s config (Check.scan s "/r".toList config files) := by
    let hits := (Scanner.new config.contextLimit config.ignoreFlag).hitsIn disk "/r".toList files
    have found : (Check.scan s "/r".toList config files).hits = hits := Scanner.hits_run_of_sorted (by decide +kernel)
    rw [Check.ExceedsCap, found]
    exact ⟨hits.take 1, hits.get ⟨1, by decide +kernel⟩, [], by decide +kernel, by decide +kernel, by decide +kernel,
      by decide +kernel⟩
  have passed : (Check.conclude s args .document "/r".toList config files).report.verdict.passed = true :=
    ((Check.passed_and_stopped_iff .document).mpr ⟨rfl, exceeded, rfl, by simp [config]⟩).1
  have stopped : (Check.conclude s args .document "/r".toList config files).result = .error (.cap ⟨1⟩) :=
    Check.Checked.result_eq_cap_iff.mpr
      ((Check.stop_conclude_eq_some_iff s args .document "/r".toList config files).mpr ⟨rfl, exceeded⟩)
  obtain ⟨printed, code⟩ := run_check parsed rfl performed
  rw [stopped] at code
  exact ⟨_, _, _, parsed, rfl, performed, passed, stopped, printed, code⟩

end Program
end TodoLedger
