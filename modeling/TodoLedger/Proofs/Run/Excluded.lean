import TodoLedger.Proofs.Disk.Contents
import TodoLedger.Proofs.Ignore.Union
import TodoLedger.Proofs.Run.Patterns
import TodoLedger.Proofs.Run.Reorder
import TodoLedger.Proofs.Targets

/-! Runs with more ignore entries. An entry that is added to the excluded paths or to the ignore file can only take files
away from a run: the others are scanned as before, in the same order. -/

namespace TodoLedger.Check

open IgnoreRules (ofEntries)

variable {build : Glob.SetBuilder} {d d' : Disk} {root : Text} {args : CheckArgs} {config config' : Config}
  {files old new more : List Text}

/-! ### The files of a run -/

theorem value_targets_of_files (some_file : args.files ≠ []) (build : Glob.SetBuilder) (d : Disk) (root : Text)
    (config : Config) : (targets build d root args config).run.value =
      .ok (args.files.flatMap (Targets.standsFor d root config.ignoreFile)) := by
  rw [targets, if_neg (by simpa using some_file), ← Targets.value_expand]
  rfl

/-- Where the same is found below the root, more entries leave a part of the files, unless their patterns make no set. -/
theorem targets_of_subset (surveyed : d'.survey root = d.survey root) (named : config'.ignoreFile = config.ignoreFile)
    (whole : args.files = []) (found : (targets build d root args config).run.value = .ok files)
    (more : ∀ old, (ignoreEntries d root args config).run.value = .ok old →
      ∃ new, (ignoreEntries d' root args config').run.value = .ok new ∧
        config.excludedPaths ++ old ⊆ config'.excludedPaths ++ new ∧
        ∀ entry ∈ config'.excludedPaths ++ new, entry ∈ config.excludedPaths ++ old ∨
          ∃ ps, IgnoreRules.patternsOf entry = .ok ps) :
    (∃ files', (targets build d' root args config').run.value = .ok files' ∧ files'.Sublist files) ∨
      EndsUnbuilt build d' root args config' := by
  obtain ⟨old, rules, listed, compiled, rfl⟩ := (targets_eq_ok_iff whole).mp found
  obtain ⟨new, listed', subset, read⟩ := more old listed
  have each := (IgnoreRules.exists_ofEntries_iff.mp ⟨rules, compiled⟩).1
  obtain ⟨rules', compiled'⟩ | ⟨message, unbuilt⟩ := IgnoreRules.exists_ofEntries_of_read config'.ignoreFile build
    fun entry mem => (read entry mem).elim (each entry) id
  · refine Or.inl ⟨_, (targets_eq_ok_iff whole).mpr ⟨new, rules', listed', compiled', rfl⟩, ?_⟩
    rw [named] at compiled'
    have ignored : ∀ p, rules.isIgnored p = true → rules'.isIgnored p = true := fun _ =>
      IgnoreRules.isIgnored_of_subset compiled compiled' subset
    rw [Targets.value_collect d', surveyed, ← Targets.value_collect]
    exact Targets.value_collect_sublist ignored d root
  · exact Or.inr (targets_of_unbuilt whole listed' unbuilt)

/-! ### Entries that are added -/

theorem targets_of_more_excluded (found : (targets build d root args config).run.value = .ok files)
    (subset : config.excludedPaths ⊆ more) (read : ∀ entry ∈ more, ∃ ps, IgnoreRules.patternsOf entry = .ok ps) :
    (∃ files', (targets build d root args { config with excludedPaths := more }).run.value = .ok files' ∧
      files'.Sublist files) ∨ EndsUnbuilt build d root args { config with excludedPaths := more } := by
  let config' : Config := { config with excludedPaths := more }
  have named : config'.ignoreFile = config.ignoreFile := rfl
  by_cases whole : args.files = []
  · refine targets_of_subset rfl named whole found fun old listed => ⟨old, ?_, ?_, ?_⟩
    · rw [value_ignoreEntries] at listed ⊢
      exact listed
    · exact List.append_subset.mpr ⟨List.subset_append_of_subset_left _ subset, List.subset_append_right _ _⟩
    · exact List.forall_mem_append.mpr ⟨fun entry mem => Or.inr (read entry mem),
        fun entry mem => Or.inl (List.mem_append_right _ mem)⟩
  · rw [value_targets_of_files whole] at found
    exact Or.inl ⟨files, (value_targets_of_files whole _ _ _ _).trans found, List.Sublist.refl _⟩

theorem targets_of_more_listed (tree : Disk.SameTree d d') (sound : d.Sound) (sound' : d'.Sound)
    (found : (targets build d root args config).run.value = .ok files)
    (loaded : Ignore.load d (Path.join root config.ignoreFile) = .ok (some old))
    (loaded' : Ignore.load d' (Path.join root config.ignoreFile) = .ok (some new)) (subset : old ⊆ new)
    (read : ∀ entry ∈ new, ∃ ps, IgnoreRules.patternsOf entry = .ok ps) :
    (∃ files', (targets build d' root args config).run.value = .ok files' ∧ files'.Sublist files) ∨
      EndsUnbuilt build d' root args config := by
  have surveyed : ∀ path, d'.survey path = d.survey path := tree.survey_eq sound sound'
  by_cases whole : args.files = []
  · refine targets_of_subset (surveyed root) rfl whole found fun entries listed => ?_
    rw [value_ignoreEntries] at listed ⊢
    cases force : args.force with
    | true =>
      rw [force] at listed
      refine ⟨[], rfl, ?_, fun entry mem => Or.inl ?_⟩
      · cases listed
        exact List.Subset.refl _
      · cases listed
        exact mem
    | false =>
      rw [force, if_neg Bool.false_ne_true, loaded] at listed
      cases listed
      rw [if_neg Bool.false_ne_true, loaded']
      refine ⟨new, rfl, List.append_subset.mpr ⟨List.subset_append_left _ _, ?_⟩, ?_⟩
      · exact List.subset_append_of_subset_right _ subset
      · exact List.forall_mem_append.mpr ⟨fun entry mem => Or.inl (List.mem_append_left _ mem),
          fun entry mem => Or.inr (read entry mem)⟩
  · have same : ∀ t, Targets.standsFor d' root config.ignoreFile t = Targets.standsFor d root config.ignoreFile t := by
      intro t
      simp only [Targets.standsFor, tree.isDirectory_eq, Targets.value_collect, surveyed]
    rw [value_targets_of_files whole] at found
    refine Or.inl ⟨files, ?_, List.Sublist.refl _⟩
    rw [value_targets_of_files whole, ← found, List.flatMap_congr fun t _ => same t]

/-- Entries come to the union of what each ignores, so neither their order nor repetitions count, and more of them leave a
part of the files of a walk, in the same order. A run whose excluded paths or whose ignore file hold more entries than
before scans a part of what it scanned. All this is so unless the patterns, each of which can be read, make no set. -/
theorem more_entries_remove_files (build : Glob.SetBuilder) :
    (∀ (ignoreFile : Text) (xs ys : List Text) (rx ry : IgnoreRules),
      ofEntries ignoreFile xs build = .ok rx → ofEntries ignoreFile ys build = .ok ry →
        (∃ r, ofEntries ignoreFile (xs ++ ys) build = .ok r ∧
          (∀ p, r.isIgnored p = true ↔ rx.isIgnored p = true ∨ ry.isIgnored p = true) ∧
          ∀ d root, (Targets.collect d root r).value.Sublist (Targets.collect d root rx).value) ∨
        ∃ message, IgnoreRules.Unbuilt build (xs ++ ys) message) ∧
    (∀ (ignoreFile : Text) (xs zs : List Text) (rx : IgnoreRules),
      ofEntries ignoreFile xs build = .ok rx → (∀ entry, entry ∈ zs ↔ entry ∈ xs) →
        (∃ r, ofEntries ignoreFile zs build = .ok r ∧ (∀ p, r.isIgnored p = rx.isIgnored p) ∧
          ∀ d root, (Targets.collect d root r).value = (Targets.collect d root rx).value) ∨
        ∃ message, IgnoreRules.Unbuilt build zs message) ∧
    ∀ (d : Disk) (root : Text) (args : CheckArgs) (config : Config) (files : List Text),
      (targets build d root args config).run.value = .ok files →
        (∀ more rules, config.excludedPaths ⊆ more → ofEntries config.ignoreFile more build = .ok rules →
          (∃ files', (targets build d root args { config with excludedPaths := more }).run.value = .ok files' ∧
            files'.Sublist files) ∨
          EndsUnbuilt build d root args { config with excludedPaths := more }) ∧
        ∀ location before after old new rules, d.Sound →
          d.existing (Path.join root config.ignoreFile) = .ok (location, .file before) →
          Ignore.load d (Path.join root config.ignoreFile) = .ok (some old) →
          Ignore.load (d.put location (.file after)) (Path.join root config.ignoreFile) = .ok (some new) →
          old ⊆ new → ofEntries config.ignoreFile new build = .ok rules →
            (∃ files', (targets build (d.put location (.file after)) root args config).run.value = .ok files' ∧
              files'.Sublist files) ∨
            EndsUnbuilt build (d.put location (.file after)) root args config := by
  refine ⟨?_, ?_, ?_⟩
  · intro ignoreFile xs ys rx ry left right
    refine (IgnoreRules.exists_ofEntries_append left right).imp_left fun ⟨r, both⟩ => ?_
    have union : ∀ p, r.isIgnored p = true ↔ rx.isIgnored p = true ∨ ry.isIgnored p = true := fun _ =>
      IgnoreRules.isIgnored_append left right both
    exact ⟨r, both, union, Targets.value_collect_sublist fun p ignored => (union p).mpr (Or.inl ignored)⟩
  · intro ignoreFile xs zs rx compiled same
    have inside : zs ⊆ xs := fun entry => (same entry).mp
    refine (IgnoreRules.exists_ofEntries_of_subset compiled inside).imp_left fun ⟨r, compiled'⟩ => ?_
    have fewer : ∀ p, r.isIgnored p = true → rx.isIgnored p = true := fun _ =>
      IgnoreRules.isIgnored_of_subset compiled' compiled inside
    have more : ∀ p, rx.isIgnored p = true → r.isIgnored p = true := fun _ =>
      IgnoreRules.isIgnored_of_subset compiled compiled' fun entry => (same entry).mpr
    exact ⟨r, compiled', fun p => Bool.eq_iff_iff.mpr ⟨fewer p, more p⟩, fun d root =>
      (Targets.value_collect_sublist more d root).antisymm (Targets.value_collect_sublist fewer d root)⟩
  · intro d root args config files found
    constructor
    · intro more rules subset compiled
      exact targets_of_more_excluded found subset (IgnoreRules.exists_ofEntries_iff.mp ⟨rules, compiled⟩).1
    · intro location before after old new rules sound there loaded loaded' subset compiled
      have stands := sound.existing there
      exact targets_of_more_listed (sound.sameTree_put stands after) sound (sound.put stands after) found loaded loaded'
        subset (IgnoreRules.exists_ofEntries_iff.mp ⟨rules, compiled⟩).1

/-- A directory is added to the excluded paths, and another one to the ignore file. -/
theorem more_entries_remove_directories :
    let file := "/i".toList
    let d : Disk := {
      nodes := [(["i".toList], .file (Text.utf8 "a\n".toList)), (["r".toList], .directory),
        (["r".toList, "b".toList], .directory), (["r".toList, "b".toList, "c".toList], .directory),
        (["r".toList, "b".toList, "c".toList, "f".toList], .file [])]
      current := [] }
    let d' := d.put ["i".toList] (.file (Text.utf8 "a\nb/c\n".toList))
    let config : Config := { ignoreFile := file }
    let files := ["/r/b/c/f".toList]
    (targets .unlimited d "/r".toList {} config).run.value = .ok files ∧
      (∃ r, ofEntries file ["a".toList, "b".toList] = .ok r ∧ r.isIgnored "b".toList = true) ∧
      (∃ r, ofEntries file ["b".toList, "b".toList] = .ok r ∧ r.isIgnored "b".toList = true) ∧
      (∃ files',
        (targets .unlimited d "/r".toList {} { config with excludedPaths := ["b".toList] }).run.value = .ok files' ∧
          files'.Sublist files) ∧
      ∃ files', (targets .unlimited d' "/r".toList {} config).run.value = .ok files' ∧ files'.Sublist files := by
  intro file d d' config files
  let rules (c : Char) : IgnoreRules :=
    ⟨[⟨[c], [.literal c]⟩, ⟨c :: "/**".toList, [.literal c, .everythingBelow]⟩], file, 1⟩
  have a : ofEntries file ["a".toList] = .ok (rules 'a') := by rfl
  have b : ofEntries file ["b".toList] = .ok (rules 'b') := by rfl
  have ignored : (rules 'b').isIgnored "b".toList = true := by decide
  have found : (targets .unlimited d "/r".toList {} config).run.value = .ok files := by decide +kernel
  have built {entries : List Text} : ¬∃ message, IgnoreRules.Unbuilt .unlimited entries message := fun ⟨_, unbuilt⟩ =>
    IgnoreRules.not_unbuilt_unlimited unbuilt
  have ends {d : Disk} {config : Config} : ¬EndsUnbuilt .unlimited d "/r".toList {} config := fun ⟨_, _, _, unbuilt, _⟩ =>
    IgnoreRules.not_unbuilt_unlimited unbuilt
  obtain ⟨union, again, runs⟩ := more_entries_remove_files .unlimited
  obtain ⟨excluded, listed⟩ := runs d "/r".toList {} config files found
  obtain ⟨both, compiled, either, -⟩ := (union file ["a".toList] ["b".toList] _ _ a b).resolve_right built
  obtain ⟨twice, compiled', same, -⟩ :=
    (again file ["b".toList] ["b".toList, "b".toList] _ b (by simp)).resolve_right built
  refine ⟨found, ⟨both, compiled, (either _).mpr (Or.inr ignored)⟩, ⟨twice, compiled', (same _).trans ignored⟩, ?_, ?_⟩
  · exact (excluded ["b".toList] _ (List.nil_subset _) b).resolve_right ends
  · obtain ⟨rules, read⟩ : ∃ rules, ofEntries file ["a".toList, "b/c".toList] = .ok rules := ⟨_, rfl⟩
    have led : d.existing file = .ok (["i".toList], .file (Text.utf8 "a\n".toList)) := by decide +kernel
    have old : Ignore.load d file = .ok (some ["a".toList]) := by decide +kernel
    have new : Ignore.load d' file = .ok (some ["a".toList, "b/c".toList]) := by decide +kernel
    exact (listed _ _ _ _ _ rules (by decide +kernel) led old new (by simp) read).resolve_right ends

end TodoLedger.Check
