import TodoLedger.Proofs.Ignore.Update
import TodoLedger.Proofs.Run.Patterns
import TodoLedger.Proofs.Targets

/-! The ignore file among the files of its own run. The file is read by whatever path the settings give for it, and left
out of a walk where the walk comes to it by that very path. So it is left out if the settings name it as the walk does;
in another spelling, or behind a link, it is scanned. -/

namespace TodoLedger

namespace IgnoreRules

variable {names : List Text}

theorem isIgnored_descend (rules : IgnoreRules) (proper : ∀ name ∈ names, Path.IsName name) (some_name : names ≠ []) :
    rules.isIgnored (Path.descend [] names) = true ↔ Path.descend [] names = rules.ignoreFile ∨
      names.head? = some ".git".toList ∨ rules.matched (Path.descend [] names) = true := by
  have first : names.headD [] = ".git".toList ↔ names.head? = some ".git".toList := by
    cases names with
    | nil => exact absurd rfl some_name
    | cons name names => simp
  rw [isIgnored_iff, Path.takeWhile_descend proper some_name, first, or_left_comm]

end IgnoreRules

namespace Check

variable {build : Glob.SetBuilder} {d : Disk} {root : Text} {args : CheckArgs} {config : Config} {files : List Text}

/-- A run that scans the whole root has read its ignore file. -/
theorem targets_of_root (found : (targets build d root args config).run.value = .ok files) (whole : args.files = [])
    (read : args.force = false) : ∃ entries rules location content,
      Ignore.load d (Path.join root config.ignoreFile) = .ok (some entries) ∧
      d.existing (Path.join root config.ignoreFile) = .ok (location, .file content) ∧
      IgnoreRules.ofEntries config.ignoreFile (config.excludedPaths ++ entries) build = .ok rules ∧
      (Targets.collect d root rules).value = files := by
  obtain ⟨entries, rules, listed, compiled, collected⟩ := (targets_eq_ok_iff whole).mp found
  rw [value_ignoreEntries, read, if_neg Bool.false_ne_true] at listed
  split at listed
  · cases listed
  · cases listed
  · cases listed
    rename_i loaded
    obtain ⟨content, _, _, there, -, -⟩ := Ignore.load_eq_ok_some_iff.mp loaded
    obtain ⟨location, there⟩ := Disk.read_eq_ok_iff.mp there
    exact ⟨entries, rules, location, content, loaded, there, compiled, collected⟩

/-- A run that scans the whole root has read its ignore file. It does not scan it by the path that the settings spell,
if they spell a path as a walk does. It does not scan it at all exactly if each path by which a walk comes to it is that
one, or is ignored for another reason. -/
theorem ignoreFile_of_targets (sound : d.Sound) (found : (targets build d root args config).run.value = .ok files)
    (whole : args.files = []) (read : args.force = false) : ∃ entries rules location content,
      Ignore.load d (Path.join root config.ignoreFile) = .ok (some entries) ∧
      d.existing (Path.join root config.ignoreFile) = .ok (location, .file content) ∧
      IgnoreRules.ofEntries config.ignoreFile (config.excludedPaths ++ entries) build = .ok rules ∧
      (∀ names ≠ [], (∀ name ∈ names, Path.IsName name) → config.ignoreFile = Path.descend [] names →
        Path.join root config.ignoreFile ∉ files) ∧
      ((∀ path ∈ files, d.existing path ≠ .ok (location, .file content)) ↔
        ∀ names ∈ (d.survey root).walk, d.existing (Path.descend root names) = .ok (location, .file content) →
          names ≠ [] ∧ (Path.descend [] names = config.ignoreFile ∨ names.head? = some ".git".toList ∨
            rules.matched (Path.descend [] names) = true)) := by
  obtain ⟨entries, rules, location, content, loaded, there, compiled, collected⟩ := targets_of_root found whole read
  have named : rules.ignoreFile = config.ignoreFile := (IgnoreRules.ofEntries_of_ok compiled).1
  have noDirectory : d.isDirectory (Path.join root config.ignoreFile) = false := by rw [Disk.isDirectory, there]
  have mem_files : ∀ path, path ∈ files ↔ ∃ names ∈ (d.survey root).walk, Path.descend root names = path ∧
      (names = [] ∨ rules.isIgnored (Path.descend [] names) = false) := by
    intro path
    rw [← collected, Targets.value_collect_of_compiled compiled sound noDirectory]
    simp [and_assoc, and_comm]
  refine ⟨entries, rules, location, content, loaded, there, compiled, ?_, ?_⟩
  · intro names some_name proper spelled mem
    rw [spelled, Path.join_descend proper some_name, mem_files] at mem
    obtain ⟨names', walked, same, kept⟩ := mem
    obtain rfl := Path.descend_inj (Targets.isName_of_mem_walk sound walked) proper same
    have ignored := (rules.isIgnored_descend proper some_name).mpr (Or.inl (spelled.symm.trans named.symm))
    exact kept.elim some_name (Bool.eq_false_iff.mp · ignored)
  · constructor
    · intro unscanned names walked leads
      have some_name : names ≠ [] := by
        rintro rfl
        exact unscanned _ ((mem_files _).mpr ⟨[], walked, rfl, Or.inl rfl⟩) leads
      have ignored : rules.isIgnored (Path.descend [] names) = true := by
        by_contra kept
        have scanned := (mem_files _).mpr ⟨names, walked, rfl, Or.inr (Bool.eq_false_iff.mpr kept)⟩
        exact unscanned _ scanned leads
      rw [rules.isIgnored_descend (Targets.isName_of_mem_walk sound walked) some_name, named] at ignored
      exact ⟨some_name, ignored⟩
    · intro all path mem leads
      obtain ⟨names, walked, rfl, kept⟩ := (mem_files path).mp mem
      obtain ⟨some_name, why⟩ := all names walked leads
      rw [← named, ← rules.isIgnored_descend (Targets.isName_of_mem_walk sound walked) some_name] at why
      exact kept.elim some_name (Bool.eq_false_iff.mp · why)

/-- A walk comes to the file over a link. Where the settings spell the link, it is left out; where they spell the file,
it is scanned. -/
theorem ignoreFile_of_linked_targets :
    let d : Disk := {
      nodes := [(["i".toList], .file (Text.utf8 "vendor\n".toList)), (["r".toList], .directory),
        (["r".toList, "x".toList], .link "/i".toList)]
      current := [] }
    let link : Config := { ignoreFile := "x".toList }
    let file : Config := { ignoreFile := "/i".toList }
    d.Sound ∧ (targets .unlimited d "/r".toList {} link).run.value = .ok [] ∧
      (targets .unlimited d "/r".toList {} file).run.value = .ok ["/r/x".toList] ∧
      Path.join "/r".toList "x".toList ∉ ([] : List Text) ∧
      ∃ content, d.existing "/i".toList = .ok (["i".toList], .file content) ∧
        ∃ path ∈ ["/r/x".toList], d.existing path = .ok (["i".toList], .file content) := by
  intro d link file
  have sound : d.Sound := by decide +kernel
  have found : (targets .unlimited d "/r".toList {} link).run.value = .ok [] := by decide +kernel
  have found' : (targets .unlimited d "/r".toList {} file).run.value = .ok ["/r/x".toList] := by decide +kernel
  have name : ∀ n ∈ ["x".toList], Path.IsName n := by decide
  obtain ⟨-, -, -, -, -, -, -, left_out, -⟩ := ignoreFile_of_targets sound found rfl rfl
  obtain ⟨entries, rules, location, content, loaded, there, compiled, -, scanned⟩ :=
    ignoreFile_of_targets sound found' rfl rfl
  let patterns : List Glob.Pattern := [⟨"vendor".toList, "vendor".toList.map .literal⟩,
    ⟨"vendor/**".toList, "vendor".toList.map .literal ++ [.everythingBelow]⟩]
  have read : Ignore.load d (Path.join "/r".toList file.ignoreFile) = .ok (some ["vendor".toList]) := by decide +kernel
  have led : d.existing (Path.join "/r".toList file.ignoreFile) =
    .ok (["i".toList], .file (Text.utf8 "vendor\n".toList)) := by decide +kernel
  have rule : IgnoreRules.ofEntries file.ignoreFile ["vendor".toList] = .ok ⟨patterns, file.ignoreFile, 1⟩ := by rfl
  cases read.symm.trans loaded
  cases led.symm.trans there
  cases rule.symm.trans compiled
  refine ⟨sound, found, found', left_out ["x".toList] (by decide) name rfl, _, there, ?_⟩
  by_contra unscanned
  have walked : ["x".toList] ∈ (d.survey "/r".toList).walk := by decide +kernel
  have leads : d.existing (Path.descend "/r".toList ["x".toList]) = d.existing "/i".toList := by decide +kernel
  obtain ⟨-, why⟩ := scanned.mp (fun path mem leads => unscanned ⟨path, mem, leads⟩) _ walked (leads.trans there)
  exact absurd why (by decide +kernel)

/-- Spelled with a dot in front, the ignore file is read and then scanned. -/
theorem dotted_ignoreFile_scanned :
    let d : Disk := {
      nodes := [(["r".toList], .directory), (["r".toList, ".todo-ignore".toList], .file (Text.utf8 "vendor\n".toList))]
      current := ["r".toList] }
    let config : Config := { ignoreFile := "./.todo-ignore".toList }
    config.validate = .ok () ∧
      Ignore.load d (Path.join "/r".toList config.ignoreFile) = .ok (some ["vendor".toList]) ∧
      (targets .unlimited d "/r".toList {} config).run.value = .ok ["/r/.todo-ignore".toList] ∧
      d.existing "/r/.todo-ignore".toList = d.existing (Path.join "/r".toList config.ignoreFile) := by
  intro d config
  exact ⟨by decide +kernel, by decide +kernel, by decide +kernel, by decide +kernel⟩

end Check
end TodoLedger
