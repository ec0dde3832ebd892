import TodoLedger.Run.Check

/-! Runs that list their hits. Nothing of them depends on the way to the tracker, and the part of the program that calls
trackers, which tells of every call, tells nothing in them. -/

namespace TodoLedger

/-! ### Parts that tell nothing -/

namespace Log.Traced

variable {α β : Type} {part : Text} {t : Traced α} {f : α → Traced β}

/-- A part of the program tells nothing on the way to the result. -/
def Spares (part : Text) (t : Traced α) : Prop := ∀ e ∈ t.events, e.target ≠ part

theorem spares_pure (part : Text) (a : α) : Spares part (pure a) := fun _ he => nomatch he

theorem spares_tell {target : String} (other : target.toList ≠ part) (level : Level) (message : Text)
    (fields : List (String × Text)) : Spares part (tell level target message fields) := by
  intro e he
  obtain rfl := List.mem_singleton.mp he
  exact other

theorem Spares.bind (ht : Spares part t) (hf : ∀ a, Spares part (f a)) : Spares part (t >>= f) := by
  intro e he
  rcases List.mem_append.mp he with he | he
  · exact ht e he
  · exact hf t.value e he

theorem Spares.forM {f : α → Traced Unit} (hf : ∀ a, Spares part (f a)) (as : List α) : Spares part (as.forM f) := by
  induction as with
  | nil => exact spares_pure part ()
  | cons a as ih => exact (hf a).bind fun _ => ih

end Log.Traced

namespace Attempt

open Log.Traced

variable {α β ε : Type} {part : Text} {x : Attempt α} {f : α → Attempt β}

theorem spares_pure (part : Text) (a : α) : Spares part (pure a : Attempt α).run := fun _ he => nomatch he

theorem spares_throw (part : Text) (e : RunError) : Spares part (throw e : Attempt α).run := fun _ he => nomatch he

theorem spares_lift {t : Log.Traced α} (ht : Spares part t) : Spares part (liftM t : Attempt α).run := by
  intro e he
  have he : e ∈ t.events ++ [] := he
  rw [List.append_nil] at he
  exact ht e he

theorem spares_ofExcept (part : Text) (wrap : ε → RunError) (r : Except ε α) : Spares part (ofExcept wrap r).run := by
  cases r with
  | ok a => exact spares_pure part a
  | error e => exact spares_throw part (wrap e)

theorem spares_bind (hx : Spares part x.run) (hf : ∀ a, Spares part (f a).run) : Spares part (x >>= f).run := by
  rw [ExceptT.run_bind]
  refine hx.bind fun r => ?_
  cases r with
  | ok a => exact hf a
  | error e => exact Log.Traced.spares_pure part _

theorem spares_ite_lift {p : Prop} [Decidable p] {t : Log.Traced Unit} (ht : Spares part t) (hx : Spares part x.run) :
    Spares part (if p then (liftM t : Attempt Unit) >>= fun _ => x else x).run := by
  split
  · exact spares_bind (spares_lift ht) fun _ => hx
  · exact hx

end Attempt

/-! ### Listing hits -/

namespace Check

open Log.Traced

variable {σ : Type} {s : Surroundings σ} {args : CheckArgs} {d : Disk}

/-- The part of the program that calls trackers. -/
def reconcileTarget : Text := "todoon::reconcile".toList

theorem warn_spares (message : String) (fields : List (String × Text)) :
    Spares reconcileTarget (Run.warn message fields) :=
  spares_tell (by decide) _ _ _

theorem withEnvironment_spares (config : Config) (env : Environment) :
    Spares reconcileTarget (config.withEnvironment env) := by
  have setting : ∀ name default current, Spares reconcileTarget (Config.countSetting env name default current) := by
    intro name default current
    rw [Config.countSetting]
    split
    · rw [Config.countOr]
      split
      · exact spares_pure _ _
      · exact (spares_tell (by decide) _ _ _).bind fun _ => spares_pure _ _
    · exact spares_pure _ _
  exact (setting _ _ _).bind fun _ => (setting _ _ _).bind fun _ => spares_pure _ _

theorem loadConfig_spares (d : Disk) (env : Environment) (root : Text) (args : CheckArgs) :
    Spares reconcileTarget (loadConfig d env root args).run := by
  refine Attempt.spares_bind (Attempt.spares_ofExcept _ _ _) fun config => ?_
  refine Attempt.spares_bind (Attempt.spares_lift (withEnvironment_spares config env)) fun config => ?_
  exact Attempt.spares_bind (Attempt.spares_ofExcept _ _ _) fun _ => Attempt.spares_pure _ _

theorem collect_spares (d : Disk) (root : Text) (rules : IgnoreRules) :
    Spares reconcileTarget (Targets.collect d root rules) := by
  refine (Spares.forM (fun f => ?_) _).bind fun _ => (spares_tell (by decide) _ _ _).bind fun _ => spares_pure _ _
  exact spares_tell (by decide) _ _ _

theorem expand_spares (d : Disk) (root ignoreFile : Text) (files : List Text) :
    Spares reconcileTarget (Targets.expand d root ignoreFile files) := by
  induction files with
  | nil => exact spares_pure _ _
  | cons t more ih =>
    rw [Targets.expand]
    split
    · exact (collect_spares d _ _).bind fun _ => ih.bind fun _ => spares_pure _ _
    · exact (spares_pure _ _).bind fun _ => ih.bind fun _ => spares_pure _ _

theorem targets_spares (build : Glob.SetBuilder) (d : Disk) (root : Text) (args : CheckArgs) (config : Config) :
    Spares reconcileTarget (targets build d root args config).run := by
  rw [targets]
  split
  · refine Attempt.spares_bind ?_ fun entries => ?_
    · rw [ignoreEntries]
      split
      · exact Attempt.spares_bind (Attempt.spares_lift (spares_tell (by decide) _ _ _)) fun _ => Attempt.spares_pure _ _
      · refine Attempt.spares_bind (Attempt.spares_ofExcept _ _ _) fun entries => ?_
        split
        · exact Attempt.spares_throw _ _
        · split
          · exact Attempt.spares_bind (Attempt.spares_lift (spares_tell (by decide) _ _ _)) fun _ =>
              Attempt.spares_pure _ _
          · exact Attempt.spares_pure _ _
    · refine Attempt.spares_bind (Attempt.spares_ofExcept _ _ _) fun rules => ?_
      refine Attempt.spares_bind (Attempt.spares_lift (spares_tell (by decide) _ _ _)) fun _ => ?_
      exact Attempt.spares_lift (collect_spares d root rules)
  · exact Attempt.spares_lift (expand_spares d root _ _)

theorem scan_spares (scanner : Scanner) (d : Disk) (base : Text) (files : List Text) :
    Spares reconcileTarget (scanner.run d base files) := by
  refine (Spares.forM (fun outcome => ?_) _).bind fun _ => (Spares.forM (fun outcome => ?_) _).bind fun _ =>
    spares_pure _ _
  · cases outcome with
    | ok f => exact spares_tell (by decide) _ _ _
    | error e => exact spares_pure _ _
  · cases outcome with
    | ok f => exact spares_pure _ _
    | error e => cases e <;> exact spares_tell (by decide) _ _ _

theorem exportStats_spares (d : Disk) (env : Environment) (stats : RunStats) :
    Spares reconcileTarget (exportStats d env stats) := by
  rw [exportStats]
  split
  · exact (warn_spares _ _).bind fun _ => spares_pure _ _
  · split
    · exact spares_pure _ _
    · exact (warn_spares _ _).bind fun _ => spares_pure _ _

theorem perform_spares (s : Surroundings σ) (print : args.issue = false) :
    Spares reconcileTarget (perform s args).run := by
  simp only [perform, print, Bool.false_eq_true, if_false]
  cases Format.ofName? args.format with
  | none => exact Attempt.spares_throw _ _
  | some format =>
    refine Attempt.spares_bind (Attempt.spares_ofExcept _ _ _) fun root => ?_
    refine Attempt.spares_bind (loadConfig_spares _ _ root args) fun config => ?_
    refine Attempt.spares_ite_lift (warn_spares _ _) ?_
    refine Attempt.spares_bind (targets_spares _ _ root args config) fun files => ?_
    refine Attempt.spares_ite_lift (warn_spares _ _) ?_
    refine Attempt.spares_bind (Attempt.spares_lift (scan_spares _ _ root files)) fun scan => ?_
    refine Attempt.spares_bind (Attempt.spares_pure _ _) fun filed => ?_
    split
    · exact Attempt.spares_bind (Attempt.spares_lift (exportStats_spares _ _ _)) fun _ => Attempt.spares_pure _ _
    · exact Attempt.spares_bind (Attempt.spares_pure _ _) fun _ => Attempt.spares_pure _ _

/-- A run that lists its hits is the same whatever the way to the tracker is, and calls no tracker of any kind. -/
theorem run_of_print (s : Surroundings σ) (level : OutputLevel) (print : args.issue = false) :
    (∀ other : Http.Transport σ, run { s with transport := other } args level = run s args level) ∧
      Spares reconcileTarget (run s args level) := by
  refine ⟨fun other => ?_, (perform_spares s print).bind fun r => ?_⟩
  · have same : perform { s with transport := other } args = perform s args := by
      simp only [perform, print, Bool.false_eq_true, if_false]
    simp only [run, same]
  · cases r <;> exact spares_pure _ _

end Check
end TodoLedger
