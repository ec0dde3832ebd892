import TodoLedger.Run.Check

/-! Runs that come to their report. Such a run has a known format, a root that is there, settings that work and files
that can be found, and these determine all that the run comes to. -/

namespace TodoLedger

/-! ### Attempts -/

namespace Attempt

variable {α β ε : Type} {x : Attempt α} {f : α → Attempt β} {a : α} {b : β}

@[simp] theorem value_pure (a : α) : (pure a : Attempt α).run.value = .ok a := rfl

@[simp] theorem value_lift (t : Log.Traced α) : (liftM t : Attempt α).run.value = .ok t.value := rfl

theorem value_bind_of_ok (hx : x.run.value = .ok a) : (x >>= f).run.value = (f a).run.value := by
  rw [ExceptT.run_bind, Log.Traced.value_bind, hx]

theorem value_bind_of_error {e : RunError} (hx : x.run.value = .error e) : (x >>= f).run.value = .error e := by
  rw [ExceptT.run_bind, Log.Traced.value_bind, hx]
  rfl

/-- A warning beforehand changes nothing of what an attempt comes to. -/
theorem value_ite_lift {p : Prop} [Decidable p] (t : Log.Traced Unit) (x : Attempt α) :
    (if p then (liftM t : Attempt Unit) >>= fun _ => x else x).run.value = x.run.value := by
  by_cases hp : p
  · rw [if_pos hp, value_bind_of_ok (value_lift t)]
  · rw [if_neg hp]

theorem value_bind_eq_ok_iff : (x >>= f).run.value = .ok b ↔ ∃ a, x.run.value = .ok a ∧ (f a).run.value = .ok b := by
  cases hx : x.run.value with
  | ok a =>
    rw [value_bind_of_ok hx]
    constructor
    · intro h
      exact ⟨a, rfl, h⟩
    · rintro ⟨_, same, h⟩
      cases same
      exact h
  | error e =>
    rw [value_bind_of_error hx]
    constructor
    · intro h
      cases h
    · rintro ⟨_, h, -⟩
      cases h

theorem value_ofExcept_eq_ok_iff {wrap : ε → RunError} {r : Except ε α} :
    (ofExcept wrap r).run.value = .ok a ↔ r = .ok a := by
  cases r with
  | ok a => simp [ofExcept]
  | error e => simp [ofExcept]

theorem value_bind_eq_error_iff {e : RunError} : (x >>= f).run.value = .error e ↔
    x.run.value = .error e ∨ ∃ a, x.run.value = .ok a ∧ (f a).run.value = .error e := by
  cases hx : x.run.value with
  | ok a =>
    rw [value_bind_of_ok hx]
    simp
  | error e' =>
    rw [value_bind_of_error hx]
    simp

theorem value_ofExcept_eq_error_iff {wrap : ε → RunError} {r : Except ε α} {e : RunError} :
    (ofExcept wrap r).run.value = .error e ↔ ∃ cause, r = .error cause ∧ wrap cause = e := by
  cases r with
  | ok a => simp [ofExcept]
  | error cause => simp [ofExcept]

end Attempt

namespace Check

variable {σ : Type} {s : Surroundings σ} {args : CheckArgs} {c : Checked σ}

/-- The arguments and the surroundings of a run are accepted: they give a format, a root, settings and files. -/
structure Accepted (s : Surroundings σ) (args : CheckArgs) (format : Format) (root : Text) (config : Config)
    (files : List Text) : Prop where
  format_eq : Format.ofName? args.format = some format
  root_eq : s.disk.canonical args.root = .ok root
  config_eq : (loadConfig s.disk s.environment root args).run.value = .ok config
  files_eq : (targets s.build s.disk root args config).run.value = .ok files

/-- What the scan of a run comes to. -/
def scan (s : Surroundings σ) (root : Text) (config : Config) (files : List Text) : ScanResult :=
  ((Scanner.new config.contextLimit config.ignoreFlag).run s.disk root files).value

/-- What comes of the hits of a run in either mode. -/
def filed (s : Surroundings σ) (args : CheckArgs) (config : Config) (scan : ScanResult) : Filed σ :=
  if args.issue then (fileHits s config scan).value else ⟨[], none, scan.stats, s.peer⟩

/-- What an accepted run comes to. -/
def conclude (s : Surroundings σ) (args : CheckArgs) (format : Format) (root : Text) (config : Config)
    (files : List Text) : Checked σ :=
  let scan := scan s root config files
  let filed := filed s args config scan
  { report := {
      path := root, mode := if args.issue then .issue else .print, hits := scan.hits, decisions := filed.decisions
      stats := filed.stats, verdict := Verdict.ofStats filed.stats args.silent config.failClosedDuplicates }
    format, stop := filed.stop
    disk := if args.githubEnv then (exportStats s.disk s.environment filed.stats).value else s.disk
    peer := filed.peer }

theorem perform_eq_ok_iff : (perform s args).run.value = .ok c ↔
    ∃ format root config files, Accepted s args format root config files ∧
      c = conclude s args format root config files := by
  rw [perform]
  cases hformat : Format.ofName? args.format with
  | none =>
    refine iff_of_false (fun h => ?_) fun ⟨_, _, _, _, accepted, _⟩ => ?_
    · cases h
    · cases accepted.format_eq.symm.trans hformat
  | some format =>
    simp only [Attempt.value_bind_eq_ok_iff, Attempt.value_ofExcept_eq_ok_iff, Attempt.value_ite_lift,
      Attempt.value_lift, Except.ok.injEq, exists_eq_left']
    constructor
    · rintro ⟨root, hroot, config, hconfig, files, hfiles, last⟩
      refine ⟨format, root, config, files, ⟨hformat, hroot, hconfig, hfiles⟩, ?_⟩
      -- hits are filed or not, and counters exported or not; each way the steps come to what is concluded
      cases hi : args.issue <;> cases he : args.githubEnv <;>
        simp only [hi, he] at last <;> cases last <;> simp only [conclude, filed, hi, he] <;> rfl
    · rintro ⟨format', root, config, files, accepted, rfl⟩
      obtain rfl : format' = format := Option.some.inj (accepted.format_eq.symm.trans hformat)
      refine ⟨root, accepted.root_eq, config, accepted.config_eq, files, accepted.files_eq, ?_⟩
      cases hi : args.issue <;> cases he : args.githubEnv <;> simp only [conclude, filed, hi, he] <;> rfl

end Check
end TodoLedger
