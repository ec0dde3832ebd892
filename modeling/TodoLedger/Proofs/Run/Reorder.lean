import TodoLedger.Proofs.Run.Gate
import TodoLedger.Proofs.Scan.Reorder

/-! Runs whose targets come in another order. A run sees its files only by what the scan makes of them, so it asks the
tracker for the same issues, stops at the same hit and reports the same. -/

namespace TodoLedger

/-! ### Targets -/

namespace Targets

variable {d : Disk} {root ignoreFile : Text} {ts ts' : List Text}

/-- The files that a target stands for. -/
def standsFor (d : Disk) (root ignoreFile t : Text) : List Text :=
  let path := Path.join root t
  if d.isDirectory path then (collect d path (IgnoreRules.empty ignoreFile)).value else [path]

theorem value_expand (d : Disk) (root ignoreFile : Text) (ts : List Text) :
    (expand d root ignoreFile ts).value = ts.flatMap (standsFor d root ignoreFile) := by
  induction ts with
  | nil => rfl
  | cons t ts ih =>
    rw [List.flatMap_cons, ← ih, expand, standsFor]
    cases d.isDirectory (Path.join root t) <;> rfl

theorem value_expand_perm (d : Disk) (root ignoreFile : Text) (perm : ts.Perm ts') :
    (expand d root ignoreFile ts).value.Perm (expand d root ignoreFile ts').value := by
  rw [value_expand, value_expand]
  exact perm.flatMap_right _

end Targets

/-! ### Runs -/

namespace Check

variable {σ : Type} {s : Surroundings σ} {args : CheckArgs} {format : Format} {root : Text} {config : Config}
  {files files' order : List Text}

theorem scan_of_perm (perm : files.Perm files') (apart : Scanner.ToldApart s.disk root files) :
    scan s root config files = scan s root config files' :=
  Scanner.value_run_of_perm _ _ perm apart

theorem perform_of_accepted (accepted : Accepted s args format root config files) :
    (perform s args).run.value = .ok (conclude s args format root config files) :=
  perform_eq_ok_iff.mpr ⟨_, _, _, _, accepted, rfl⟩

/-- Nothing but the files of a run depends on its targets. -/
theorem Accepted.retarget (accepted : Accepted s args format root config files)
    (expanded : (targets s.build s.disk root { args with files := order } config).run.value = .ok files') :
    Accepted s { args with files := order } format root config files' :=
  ⟨accepted.format_eq, accepted.root_eq, accepted.config_eq, expanded⟩

theorem conclude_of_perm (perm : files.Perm files') (apart : Scanner.ToldApart s.disk root files) :
    conclude s args format root config files = conclude s { args with files := order } format root config files' := by
  rw [conclude, conclude, scan_of_perm perm apart]
  rfl

/-- The order of targets does not matter. Files of which different ones are reported under different paths have the same
hits and counters in every order. Targets that stand for the same files in another order make the same calls for issues
and the same decisions up to the same hit, and end in the same way; and targets in another order do stand for the same
files. -/
theorem run_of_reordered_targets :
    (∀ (scanner : Scanner) (d : Disk) (base : Text) (files files' : List Text), files.Perm files' →
      Scanner.ToldApart d base files → (scanner.run d base files).value = (scanner.run d base files').value) ∧
    (∀ (σ : Type) (s : Surroundings σ) (args : CheckArgs) (order : List Text) (format : Format) (root : Text)
      (config : Config) (files files' : List Text) (level : OutputLevel),
      Accepted s args format root config files →
      (targets s.build s.disk root { args with files := order } config).run.value = .ok files' →
      files.Perm files' → Scanner.ToldApart s.disk root files →
        (let calls := fun scan : ScanResult =>
          (reconciler s config).callsUntilCap (.start scan.stats (begun s config)) scan.hits
        calls (scan s root config files) = calls (scan s root config files')) ∧
        (perform s args).run.value = (perform s { args with files := order }).run.value ∧
        (run s args level).value = (run s { args with files := order } level).value) ∧
    ∀ (build : Glob.SetBuilder) (d : Disk) (root : Text) (args : CheckArgs) (config : Config) (order files : List Text),
      args.files.Perm order → (targets build d root args config).run.value = .ok files →
        ∃ files', (targets build d root { args with files := order } config).run.value = .ok files' ∧
          files.Perm files' := by
  refine ⟨fun scanner d base files files' perm apart => Scanner.value_run_of_perm scanner d perm apart, ?_, ?_⟩
  · intro σ s args order format root config files files' level accepted expanded perm apart
    have performed := perform_of_accepted accepted
    have performed' := perform_of_accepted (accepted.retarget expanded)
    rw [← conclude_of_perm perm apart] at performed'
    refine ⟨by rw [scan_of_perm perm apart], performed.trans performed'.symm, ?_⟩
    rw [run_value level performed, run_value level performed']
  · intro build d root args config order files perm expanded
    by_cases all : args.files = []
    · rw [all] at perm
      rw [List.nil_perm.mp perm, ← all]
      exact ⟨files, expanded, .refl _⟩
    have other : order ≠ [] := fun none => all (List.perm_nil.mp (none ▸ perm))
    have value : ∀ ts : List Text, ts ≠ [] → (targets build d root { args with files := ts } config).run.value =
        .ok (Targets.expand d root config.ignoreFile ts).value := by
      intro ts some_t
      rw [targets, if_neg (by simpa using some_t)]
      rfl
    cases (value args.files all).symm.trans expanded
    exact ⟨_, value order other, Targets.value_expand_perm d root config.ignoreFile perm⟩

/-- A file that is asked for twice, and by a path that spells it in another way. -/
theorem run_of_two_orders :
    let disk := (Disk.empty.write "/r/a.py".toList (Text.utf8 "# TODO one".toList)).write
      "/r/b.py".toList (Text.utf8 "# TODO two".toList)
    let s : Surroundings Unit := ⟨disk, fun _ => none, Http.Transport.closed, (), false, .unlimited⟩
    let a := "/r/a.py".toList
    let b := "/r/b.py".toList
    let b' := "/r/./b.py".toList
    let args : CheckArgs :=
      { files := [b, b', a], root := "/r".toList, issue := true, maxIssues := some 1, dryRun := true }
    let config : Config := { maxIssues := 1, dryRun := true }
    Accepted s args .pretty "/r".toList config [b, b', a] ∧ Scanner.ToldApart disk "/r".toList [b, b', a] ∧
      (∃ files', (targets .unlimited disk "/r".toList { args with files := [a, b', b] } config).run.value = .ok files' ∧
        [b, b', a].Perm files') ∧
      (run s args .full).value = (run s { args with files := [a, b', b] } .full).value ∧
      ((Scanner.new 8 Scanner.defaultFlag).run disk "/r".toList [b, b', a]).value.hits.map (·.file) =
        ["a.py".toList, "b.py".toList, "b.py".toList] := by
  intro disk s a b b' args config
  have accepted : Accepted s args .pretty "/r".toList config [b, b', a] := ⟨by decide +kernel, rfl, rfl, rfl⟩
  have apart : Scanner.ToldApart disk "/r".toList [b, b', a] := by decide +kernel
  have perm : [b, b', a].Perm [a, b', b] := by decide
  obtain ⟨scanned, ran, expanded⟩ := run_of_reordered_targets
  obtain ⟨-, -, same⟩ := ran _ s args [a, b', b] _ _ _ _ _ .full accepted rfl perm apart
  refine ⟨accepted, apart, expanded _ disk _ args config _ _ perm accepted.files_eq, same, ?_⟩
  rw [scanned _ disk "/r".toList _ _ perm apart, Scanner.hits_run_of_sorted (by decide +kernel)]
  decide +kernel

end Check
end TodoLedger
