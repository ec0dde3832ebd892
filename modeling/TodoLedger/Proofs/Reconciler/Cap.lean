import TodoLedger.Proofs.Reconciler.Run

/-! What is filed in a run. The fingerprints of a progress are those of the issues that the tracker created, each
once and none with an entry in the inventory, and there are never more of them than the cap allows. -/

namespace TodoLedger.Reconciler

variable {σ : Type} {r : Reconciler σ} {p q : Progress σ} {h : Hit} {hits : List Hit} {calls : List Call}
  {outcome : Except CapExceeded Decision} {outcomes : List (Except CapExceeded Decision)}

/-! ### The created issues -/

theorem Decides.filed_eq (d : Decides r p h calls outcome q) :
    q.filed = p.filed ++ (Call.created calls).map fun c => fingerprint c.title := by
  cases d <;> simp [Call.created, Hit.payload, Hit.fingerprint]

theorem Decides.issuesFiled_eq (d : Decides r p h calls outcome q) :
    q.stats.issuesFiled = p.stats.issuesFiled + (Call.created calls).length := by
  cases d <;> simp [Call.created]

theorem Run.filed_eq (run : Run r p hits calls outcomes q) :
    q.filed = p.filed ++ (Call.created calls).map fun c => fingerprint c.title := by
  induction run with
  | nil => simp
  | cons first _ ih => rw [ih, first.filed_eq, Call.created_append, List.map_append, List.append_assoc]

theorem Run.issuesFiled_eq (run : Run r p hits calls outcomes q) :
    q.stats.issuesFiled = p.stats.issuesFiled + (Call.created calls).length := by
  induction run with
  | nil => simp
  | cons first _ ih => rw [ih, first.issuesFiled_eq, Call.created_append, List.length_append, Nat.add_assoc]

/-! ### The invariant -/

/-- What holds of the issues filed so far. -/
structure Sound (r : Reconciler σ) (p : Progress σ) : Prop where
  nodup : p.filed.Nodup
  absent : ∀ f ∈ p.filed, r.inventory.state? f = none
  within : p.filed.length ≤ r.cap

theorem sound_start (r : Reconciler σ) (stats : RunStats) (s : σ) : Sound r (.start stats s) :=
  ⟨List.nodup_nil, fun _ hf => absurd hf List.not_mem_nil, Nat.zero_le _⟩

theorem Sound.of_filed (hp : Sound r p) (hq : q.filed = p.filed) : Sound r q :=
  ⟨hq ▸ hp.nodup, hq ▸ hp.absent, hq ▸ hp.within⟩

theorem Sound.decides (hp : Sound r p) (d : Decides r p h calls outcome q) : Sound r q := by
  cases d with
  | filed new room tracked ok =>
    obtain ⟨fresh, absent⟩ := classify_eq_new_iff.mp new
    refine ⟨?_, ?_, ?_⟩
    · refine List.nodup_append.mpr ⟨hp.nodup, by simp, ?_⟩
      rintro f hf _ hg rfl
      exact fresh (List.mem_singleton.mp hg ▸ hf)
    · intro f hf
      rcases List.mem_append.mp hf with hf | hf
      · exact hp.absent f hf
      · rw [List.mem_singleton.mp hf]
        exact absent
    · rw [List.length_append]
      exact room
  | _ => exact hp.of_filed rfl

theorem Sound.run (hp : Sound r p) (run : Run r p hits calls outcomes q) : Sound r q := by
  induction run with
  | nil => exact hp
  | cons first _ ih => exact ih (hp.decides first)

/-! ### The calls and the cap -/

/-- At most one call is made for a hit, and only while there is room. -/
theorem Decides.calls_cases (d : Decides r p h calls outcome q) :
    calls = [] ∨ ∃ c, calls = [c] ∧ p.filed.length < r.cap := by
  cases d with
  | filed new room tracked ok => exact Or.inr ⟨_, rfl, room⟩
  | filingFailed new room tracked refused => exact Or.inr ⟨_, rfl, room⟩
  | _ => exact Or.inl rfl

/-- When a call is made, fewer issues have been filed than the cap allows. -/
theorem Run.room_of_call (run : Run r p hits calls outcomes q) {before later : List Call} {c : Call}
    (made : calls = before ++ c :: later) : p.filed.length + (Call.created before).length < r.cap := by
  induction run generalizing before with
  | nil => simp at made
  | @cons p q u h hits calls calls' outcome outcomes first _ ih =>
    have count := congrArg List.length first.filed_eq
    rw [List.length_append, List.length_map] at count
    rcases first.calls_cases with rfl | ⟨c', rfl, room⟩
    · have := ih made
      simp only [Call.created_nil, List.length_nil] at count
      omega
    · cases before with
      | nil => simpa using room
      | cons b before =>
        obtain ⟨rfl, made'⟩ := List.cons.inj made
        have := ih made'
        have split : Call.created (c' :: before) = Call.created [c'] ++ Call.created before :=
          Call.created_append [c'] before
        rw [split, List.length_append]
        omega

/-- No calls are made once as many issues are filed as the cap allows. -/
theorem Run.calls_eq_nil (run : Run r p hits calls outcomes q) (full : r.cap ≤ p.filed.length) : calls = [] := by
  cases calls with
  | nil => rfl
  | cons c later =>
    have := run.room_of_call (List.nil_append (c :: later)).symm
    omega

/-- At every point of a run the fingerprints filed are as many as the issues that the tracker created and as the
increase of the counter, and no more than the cap allows. Each call for an issue is made while fewer issues are
filed than that, and none after it. The created issues differ in their titles, none of which is in the inventory.

A run may go on after a hit that exceeds the cap, and each of its points is the end of a shorter run. -/
theorem created_within_cap (r : Reconciler σ) (stats : RunStats) (s : σ) (hits : List Hit) :
    let p := (r.decideEach (.start stats s) hits).value.2
    let calls := r.callsOfEach (.start stats s) hits
    p.filed.length = (Call.created calls).length ∧
      p.stats.issuesFiled = stats.issuesFiled + (Call.created calls).length ∧
      p.filed.length ≤ r.cap ∧
      (∀ before c later, calls = before ++ c :: later → (Call.created before).length < r.cap) ∧
      (p.filed.length = r.cap → ∀ more, r.callsOfEach (.start stats s) (hits ++ more) = calls) ∧
      ((Call.created calls).map (·.title)).Nodup ∧
      ∀ c ∈ Call.created calls, r.inventory.state? (fingerprint c.title) = none := by
  obtain ⟨calls, outcomes, p, run⟩ := exists_run r (.start stats s) hits
  have sound := (sound_start r stats s).run run
  have filed : p.filed = (Call.created calls).map fun c => fingerprint c.title := run.filed_eq
  simp only [run.decideEach, run.callsOfEach]
  refine ⟨by simp [filed], run.issuesFiled_eq, sound.within, fun before c later made => ?_, fun full more => ?_, ?_,
    fun c hc => ?_⟩
  · simpa [Progress.start] using run.room_of_call made
  · obtain ⟨later, _, _, rest⟩ := exists_run r p more
    rw [(run.append rest).callsOfEach, rest.calls_eq_nil (Nat.le_of_eq full.symm), List.append_nil]
  · have nodup := sound.nodup
    rw [filed, ← Function.comp_def fingerprint, ← List.map_map] at nodup
    exact List.Pairwise.of_map fingerprint (fun _ _ hne heq => hne (congrArg fingerprint heq)) nodup
  · exact sound.absent _ (filed ▸ List.mem_map_of_mem hc)

end TodoLedger.Reconciler
