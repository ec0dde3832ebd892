import TodoLedger.Proofs.Ignore.Entries
import TodoLedger.Proofs.Run.Accepted

/-! Patterns that a run cannot use. Settings are refused for excluded paths that cannot be read as they stand; a run reads
them with slashes in place of backslashes, and makes one set of them and the entries of the ignore file. So settings that
are accepted can end a run by their own patterns: by one of those with backslashes, or where all of them together make no
set. -/

namespace TodoLedger

namespace Config

theorem badPattern?_eq_none_iff {ps : List Text} :
    badPattern? ps = none ↔ ∀ p ∈ ps, ∃ g, Glob.Pattern.read p = .ok g := by
  induction ps with
  | nil => exact iff_of_true rfl nofun
  | cons p ps ih =>
    rw [badPattern?, List.forall_mem_cons]
    cases Glob.Pattern.read p with
    | ok g => simp [ih]
    | error e => simp

theorem read_of_validate {config : Config} (valid : config.validate = .ok ()) :
    ∀ p ∈ config.excludedPaths, ∃ g, Glob.Pattern.read p = .ok g := by
  rw [validate] at valid
  split at valid
  · cases valid
  split at valid
  · cases valid
  split at valid
  · cases valid
  split at valid
  · cases valid
  · exact badPattern?_eq_none_iff.mp ‹_›

/-- The excluded paths of accepted settings can be read if those with backslashes can be read without them. -/
theorem patternsOf_of_validate_iff {config : Config} (valid : config.validate = .ok ()) :
    (∀ p ∈ config.excludedPaths, ∃ ps, IgnoreRules.patternsOf p = .ok ps) ↔
      ∀ p ∈ config.excludedPaths, '\\' ∈ p → ∃ g, Glob.Pattern.read (Path.forwardSlashes p) = .ok g := by
  simp only [IgnoreRules.exists_patternsOf_iff_slashed]
  refine ⟨fun all p mem _ => all p mem, fun all p mem => ?_⟩
  by_cases backslash : '\\' ∈ p
  · exact all p mem backslash
  · -- without backslashes the rules read what was read before
    rw [IgnoreRules.forwardSlashes_of_not_mem backslash]
    exact read_of_validate valid p mem

end Config

namespace Check

variable {d : Disk} {env : Environment} {root entry : Text} {args : CheckArgs} {config : Config}
  {entries files : List Text} {build : Glob.SetBuilder} {cause : Glob.PatternError}

theorem validate_of_loadConfig (loaded : (loadConfig d env root args).run.value = .ok config) :
    config.validate = .ok () := by
  simp only [loadConfig, Attempt.value_bind_eq_ok_iff, Attempt.value_ofExcept_eq_ok_iff] at loaded
  obtain ⟨_, -, _, -, _, valid, same⟩ := loaded
  cases same
  exact valid

theorem load_ne_pattern {path : Text} : Ignore.load d path ≠ .error (.pattern entry cause) := by
  intro failed
  rw [Ignore.load] at failed
  split at failed
  · cases failed
  · cases failed
  · split at failed <;> cases failed

/-- What the entries of a run come to. -/
theorem value_ignoreEntries (d : Disk) (root : Text) (args : CheckArgs) (config : Config) :
    (ignoreEntries d root args config).run.value =
      if args.force then .ok []
      else match Ignore.load d (Path.join root config.ignoreFile) with
        | .error e => .error (.scan e)
        | .ok none => .error (.scan (.missingIgnoreFile (Path.join root config.ignoreFile)))
        | .ok (some entries) => .ok entries := by
  rw [ignoreEntries]
  split
  · rfl
  · dsimp only
    cases Ignore.load d (Path.join root config.ignoreFile) with
    | error e => rfl
    | ok found =>
      cases found with
      | none => rfl
      | some entries => cases entries <;> rfl

/-- The entries of a run are those of its ignore file, and it is not for them that it comes to none. -/
theorem ignoreEntries_cases (d : Disk) (root : Text) (args : CheckArgs) (config : Config) :
    (∃ entries, (ignoreEntries d root args config).run.value = .ok entries ∧
        ∀ entry ∈ entries, args.force = false ∧
          ∃ all, Ignore.load d (Path.join root config.ignoreFile) = .ok (some all) ∧ entry ∈ all) ∨
      ∃ e, (ignoreEntries d root args config).run.value = .error (.scan e) ∧ ∀ entry cause, e ≠ .pattern entry cause := by
  rw [value_ignoreEntries]
  cases force : args.force with
  | true => exact Or.inl ⟨[], rfl, nofun⟩
  | false =>
    cases loaded : Ignore.load d (Path.join root config.ignoreFile) with
    | error e => exact Or.inr ⟨e, rfl, fun entry cause same => load_ne_pattern (same ▸ loaded)⟩
    | ok found =>
      cases found with
      | none => exact Or.inr ⟨_, rfl, nofun⟩
      | some entries => exact Or.inl ⟨entries, rfl, fun entry mem => ⟨rfl, entries, rfl, mem⟩⟩

theorem targets_eq_ok_iff (whole : args.files = []) : (targets build d root args config).run.value = .ok files ↔
    ∃ entries rules, (ignoreEntries d root args config).run.value = .ok entries ∧
      IgnoreRules.ofEntries config.ignoreFile (config.excludedPaths ++ entries) build = .ok rules ∧
      (Targets.collect d root rules).value = files := by
  rw [targets, if_pos (List.isEmpty_iff.mpr whole)]
  simp only [Attempt.value_bind_eq_ok_iff, Attempt.value_ofExcept_eq_ok_iff, Attempt.value_lift, Except.ok.injEq,
    exists_const, true_and, exists_and_left]

/-- Whether a run ends because its entries can each be read, but their patterns make no set. -/
def EndsUnbuilt (build : Glob.SetBuilder) (d : Disk) (root : Text) (args : CheckArgs) (config : Config) : Prop :=
  ∃ entries message, (ignoreEntries d root args config).run.value = .ok entries ∧
    IgnoreRules.Unbuilt build (config.excludedPaths ++ entries) message ∧
    (targets build d root args config).run.value = .error (.scan (.pattern [] (.unbuilt message)))

theorem targets_of_unbuilt {message : Text} (whole : args.files = [])
    (listed : (ignoreEntries d root args config).run.value = .ok entries)
    (unbuilt : IgnoreRules.Unbuilt build (config.excludedPaths ++ entries) message) :
    EndsUnbuilt build d root args config := by
  refine ⟨entries, message, listed, unbuilt, ?_⟩
  rw [targets, if_pos (List.isEmpty_iff.mpr whole), Attempt.value_bind_of_ok listed]
  refine Attempt.value_bind_of_error (Attempt.value_ofExcept_eq_error_iff.mpr ⟨_, ?_, rfl⟩)
  exact unbuilt.ofEntries_eq config.ignoreFile

/-- A pattern that ends a run is an excluded path or an entry of the ignore file that cannot be read. If it is none in
particular, each of them can be read, but their patterns make no set. -/
theorem targets_pattern
    (failed : (targets build d root args config).run.value = .error (.scan (.pattern entry cause))) :
    (IgnoreRules.patternsOf entry = .error (.pattern entry cause) ∧
      (entry ∈ config.excludedPaths ∨ args.force = false ∧
        ∃ all, Ignore.load d (Path.join root config.ignoreFile) = .ok (some all) ∧ entry ∈ all)) ∨
    entry = [] ∧ ∃ entries message, (ignoreEntries d root args config).run.value = .ok entries ∧
      IgnoreRules.Unbuilt build (config.excludedPaths ++ entries) message ∧ cause = .unbuilt message := by
  rw [targets] at failed
  split at failed
  · rw [Attempt.value_bind_eq_error_iff] at failed
    obtain ⟨entries, found, of⟩ | ⟨e, missing, other⟩ := ignoreEntries_cases d root args config
    · obtain none_found | ⟨entries', found', failed⟩ := failed
      · cases found.symm.trans none_found
      · cases found.symm.trans found'
        obtain uncompiled | ⟨rules, -, walked⟩ := Attempt.value_bind_eq_error_iff.mp failed
        · obtain ⟨e, uncompiled, same⟩ := Attempt.value_ofExcept_eq_error_iff.mp uncompiled
          cases same
          obtain ⟨_, -, eq⟩ | ⟨message, unbuilt, eq⟩ | ⟨e, ⟨entry', mem, unread⟩, eq⟩ :=
            IgnoreRules.ofEntries_cases config.ignoreFile (config.excludedPaths ++ entries) build
          · cases eq.symm.trans uncompiled
          · cases eq.symm.trans uncompiled
            exact Or.inr ⟨rfl, entries, message, found, unbuilt, rfl⟩
          · cases eq.symm.trans uncompiled
            obtain ⟨_, same⟩ := IgnoreRules.patternsOf_error unread
            cases same
            exact Or.inl ⟨unread, (List.mem_append.mp mem).imp_right (of entry)⟩
        · cases walked
    · obtain missing' | ⟨_, found, -⟩ := failed
      · cases missing.symm.trans missing'
        exact absurd rfl (other entry cause)
      · cases missing.symm.trans found
  · cases failed

/-- Each excluded path of accepted settings can be read exactly if those with backslashes can be read with slashes instead,
and then they come to rules unless their patterns make no set. A pattern that ends a run cannot be read, and is an excluded
path with backslashes or an entry of the ignore file; or it is none in particular, where all of them can be read and make no
set. -/
theorem patterns_of_accepted (config : Config) :
    (config.validate = .ok () →
      ((∀ p ∈ config.excludedPaths, ∃ ps, IgnoreRules.patternsOf p = .ok ps) ↔
        ∀ p ∈ config.excludedPaths, '\\' ∈ p → ∃ g, Glob.Pattern.read (Path.forwardSlashes p) = .ok g) ∧
      ∀ build : Glob.SetBuilder,
        (∃ rules, IgnoreRules.ofEntries config.ignoreFile config.excludedPaths build = .ok rules) ↔
          (∀ p ∈ config.excludedPaths, '\\' ∈ p → ∃ g, Glob.Pattern.read (Path.forwardSlashes p) = .ok g) ∧
            ∀ message, ¬IgnoreRules.Unbuilt build config.excludedPaths message) ∧
    ∀ (build : Glob.SetBuilder) (d : Disk) (env : Environment) (root : Text) (args : CheckArgs),
      (loadConfig d env root args).run.value = .ok config → ∀ (entry : Text) (cause : Glob.PatternError),
        (targets build d root args config).run.value = .error (.scan (.pattern entry cause)) →
          (IgnoreRules.patternsOf entry = .error (.pattern entry cause) ∧
            (entry ∈ config.excludedPaths ∧ '\\' ∈ entry ∧
                (∀ g, Glob.Pattern.read (Path.forwardSlashes entry) ≠ .ok g) ∨
              args.force = false ∧
                ∃ all, Ignore.load d (Path.join root config.ignoreFile) = .ok (some all) ∧ entry ∈ all)) ∨
          entry = [] ∧ ∃ entries message, (ignoreEntries d root args config).run.value = .ok entries ∧
            IgnoreRules.Unbuilt build (config.excludedPaths ++ entries) message ∧ cause = .unbuilt message := by
  refine ⟨fun valid => ?_, ?_⟩
  · have each := Config.patternsOf_of_validate_iff valid
    exact ⟨each, fun build => IgnoreRules.exists_ofEntries_iff.trans (and_congr_left' each)⟩
  intro build d env root args loaded entry cause failed
  obtain ⟨unread, excluded | file⟩ | none := targets_pattern failed
  · refine Or.inl ⟨unread, Or.inl ⟨excluded, ?_⟩⟩
    have unreadable : ∀ g, Glob.Pattern.read (Path.forwardSlashes entry) ≠ .ok g := fun g read => by
      obtain ⟨ps, readable⟩ := IgnoreRules.exists_patternsOf_iff_slashed.mpr ⟨g, read⟩
      cases unread.symm.trans readable
    refine ⟨?_, unreadable⟩
    by_contra plain
    obtain ⟨g, read⟩ := Config.read_of_validate (validate_of_loadConfig loaded) entry excluded
    exact unreadable g (by rw [IgnoreRules.forwardSlashes_of_not_mem plain, read])
  · exact Or.inl ⟨unread, Or.inr file⟩
  · exact Or.inr none

/-- The settings keep their own pattern, and the ignore file ends the run by one of its entries. -/
theorem patterns_of_accepted_settings :
    let config : Config := { excludedPaths := ["build\\*".toList] }
    let d : Disk := {
      nodes := [(["r".toList], .directory), (["r".toList, ".todo-ignore".toList], .file (Text.utf8 "a[\n".toList))]
      current := ["r".toList] }
    let ended := (targets .unlimited d "/r".toList {} {}).run.value
    config.validate = .ok () ∧ (∃ rules, IgnoreRules.ofEntries config.ignoreFile config.excludedPaths = .ok rules) ∧
      (loadConfig d (fun _ => none) "/r".toList {}).run.value = .ok {} ∧
      ended = .error (.scan (.pattern "a[".toList (.unread "a[".toList .unclosedClass))) ∧
      ∃ all, Ignore.load d "/r/.todo-ignore".toList = .ok (some all) ∧ "a[".toList ∈ all := by
  intro config d ended
  have valid : config.validate = .ok () := by decide +kernel
  have loaded : (loadConfig d (fun _ => none) "/r".toList {}).run.value = .ok {} := by rfl
  have failed : ended = .error (.scan (.pattern "a[".toList (.unread "a[".toList .unclosedClass))) := by
    decide +kernel
  obtain ⟨of_valid, -⟩ := patterns_of_accepted config
  obtain ⟨-, rules⟩ := of_valid valid
  obtain ⟨-, run⟩ := patterns_of_accepted {}
  refine ⟨valid, (rules .unlimited).mpr ⟨?_, fun _ => IgnoreRules.not_unbuilt_unlimited⟩, loaded, failed, ?_⟩
  · intro p mem _
    obtain rfl := List.mem_singleton.mp mem
    exact ⟨⟨"build/*".toList, _⟩, rfl⟩
  · obtain ⟨-, ⟨excluded, -⟩ | ⟨-, from_file⟩⟩ | ⟨none, -⟩ := run .unlimited d _ _ _ loaded _ _ failed
    · cases excluded
    · exact from_file
    · cases none

/-- As it stands the backslash takes the bracket's meaning away; as a slash it does not. -/
theorem accepted_pattern_unread :
    let config : Config := { excludedPaths := ["a\\[".toList] }
    config.validate = .ok () ∧ IgnoreRules.ofEntries config.ignoreFile config.excludedPaths =
      .error (.pattern "a\\[".toList (.unread "a/[".toList .unclosedClass)) := by
  intro config
  exact ⟨by decide +kernel, by rfl⟩

end Check
end TodoLedger
