import TodoLedger.Proofs.Reconciler.Cap

/-! The course of one title through a run. Hits of other titles change it only by using up the cap: once the
title is filed it is open, and once the cap is reached it is reached for good. -/

namespace TodoLedger.Reconciler

variable {σ : Type} {r : Reconciler σ} {p q : Progress σ} {h : Hit} {hits : List Hit} {calls : List Call}
  {outcome : Except CapExceeded Decision} {outcomes : List (Except CapExceeded Decision)} {f : Text}

/-! ### The outcomes of one title -/

/-- The outcomes of the hits with a fingerprint. -/
def outcomesOf (f : Text) (hits : List Hit) (outcomes : List (Except CapExceeded Decision)) :
    List (Except CapExceeded Decision) :=
  ((hits.zip outcomes).filter fun x => x.1.fingerprint = f).map (·.2)

theorem outcomesOf_cons_of_eq (hf : h.fingerprint = f) :
    outcomesOf f (h :: hits) (outcome :: outcomes) = outcome :: outcomesOf f hits outcomes := by
  simp [outcomesOf, hf]

theorem outcomesOf_cons_of_ne (hf : h.fingerprint ≠ f) :
    outcomesOf f (h :: hits) (outcome :: outcomes) = outcomesOf f hits outcomes := by
  simp [outcomesOf, hf]

/-- All outcomes are `o`. -/
def Only (o : Except CapExceeded Decision) (outcomes : List (Except CapExceeded Decision)) : Prop :=
  ∀ x ∈ outcomes, x = o

theorem only_nil (o : Except CapExceeded Decision) : Only o [] := fun _ hx => absurd hx List.not_mem_nil

theorem only_cons {o : Except CapExceeded Decision} (ho : Only o outcomes) : Only o (o :: outcomes) :=
  List.forall_mem_cons.mpr ⟨rfl, ho⟩

/-- The outcomes of a title without an issue: failures until it is filed, after which it is open, or until the
cap is reached. -/
def FilingCourse (cap : Nat) (outcomes : List (Except CapExceeded Decision)) : Prop :=
  ∃ failed rest, outcomes = failed ++ rest ∧ Only (.ok .filingFailed) failed ∧
    ((∃ later, rest = .ok .filed :: later ∧ Only (.ok .duplicateOpen) later) ∨ Only (.error ⟨cap⟩) rest)

/-- The outcomes that the hits of one title can have, in order. -/
def Course (r : Reconciler σ) (f : Text) (outcomes : List (Except CapExceeded Decision)) : Prop :=
  match r.inventory.state? f, r.tracker with
  | some .isOpen, _ => Only (.ok .duplicateOpen) outcomes
  | some .closed, _ => Only (.ok .duplicateClosed) outcomes
  | none, some _ => FilingCourse r.cap outcomes
  | none, none => Only (if 0 < r.cap then .ok .skipped else .error ⟨r.cap⟩) outcomes

/-- If every hit keeps `I` and `I` settles the outcome of a title, then the title has no other outcome. -/
theorem Run.only {I : Progress σ → Prop} {o : Except CapExceeded Decision}
    (keep : ∀ {p h calls outcome q}, I p → Decides r p h calls outcome q → I q)
    (settle : ∀ {p h calls outcome q}, I p → h.fingerprint = f → Decides r p h calls outcome q → outcome = o)
    (run : Run r p hits calls outcomes q) (hp : I p) : Only o (outcomesOf f hits outcomes) := by
  induction run with
  | nil => exact only_nil o
  | @cons p q u h hits calls later outcome outcomes first _ ih =>
    have rest := ih (keep hp first)
    by_cases hf : h.fingerprint = f
    · rw [outcomesOf_cons_of_eq hf]
      rw [settle hp hf first]
      exact only_cons rest
    · rw [outcomesOf_cons_of_ne hf]
      exact rest

/-! ### What a hit does to the title of another -/

theorem Decides.outcome_of_duplicateOpen (d : Decides r p h calls outcome q)
    (known : r.classify p h = .duplicateOpen) : outcome = .ok .duplicateOpen := by
  cases d <;> simp_all

theorem Decides.outcome_of_duplicateClosed (d : Decides r p h calls outcome q)
    (known : r.classify p h = .duplicateClosed) : outcome = .ok .duplicateClosed := by
  cases d <;> simp_all

theorem Decides.outcome_of_full (d : Decides r p h calls outcome q) (new : r.classify p h = .new)
    (full : r.cap ≤ p.filed.length) : outcome = .error ⟨r.cap⟩ := by
  cases d with
  | capExceeded => rfl
  | skipped _ room _ => omega
  | filed _ room _ _ => omega
  | filingFailed _ room _ _ => omega
  | _ => simp_all

theorem Decides.mem_filed (d : Decides r p h calls outcome q) (hf : f ∈ p.filed) : f ∈ q.filed := by
  rw [d.filed_eq]
  exact List.mem_append_left _ hf

/-- Only a new hit adds a fingerprint, which is its own. -/
theorem Decides.filed_cases (d : Decides r p h calls outcome q) :
    q.filed = p.filed ∨ outcome = .ok .filed ∧ r.classify p h = .new ∧ q.filed = p.filed ++ [h.fingerprint] := by
  cases d with
  | filed new => exact Or.inr ⟨rfl, new, rfl⟩
  | _ => exact Or.inl rfl

/-- A title with an issue in the inventory is not filed. -/
theorem Decides.not_mem_filed (d : Decides r p h calls outcome q) (known : r.inventory.state? f ≠ none)
    (hf : f ∉ p.filed) : f ∉ q.filed := by
  rcases d.filed_cases with heq | ⟨-, new, heq⟩
  · rwa [heq]
  · rw [heq, List.mem_append, List.mem_singleton]
    rintro (hf' | rfl)
    · exact hf hf'
    · exact known (classify_eq_new_iff.mp new).2

/-- Once the cap is reached nothing more is filed. -/
theorem Decides.filed_of_full (d : Decides r p h calls outcome q) (full : r.cap ≤ p.filed.length) :
    q.filed = p.filed := by
  cases d with
  | filed _ room _ _ => omega
  | _ => rfl

/-! ### Settled titles -/

theorem Run.only_of_open (run : Run r p hits calls outcomes q) (hs : r.inventory.state? f = some .isOpen) :
    Only (.ok .duplicateOpen) (outcomesOf f hits outcomes) :=
  run.only (I := fun _ => True) (fun _ _ => trivial)
    (fun _ hf d => d.outcome_of_duplicateOpen (classify_of_open (hf ▸ hs))) trivial

theorem Run.only_of_closed (run : Run r p hits calls outcomes q) (hs : r.inventory.state? f = some .closed)
    (hp : f ∉ p.filed) : Only (.ok .duplicateClosed) (outcomesOf f hits outcomes) :=
  run.only (I := fun p => f ∉ p.filed) (fun hp d => d.not_mem_filed (by simp [hs]) hp)
    (fun hp hf d => d.outcome_of_duplicateClosed (classify_of_closed (hf ▸ hs) (hf ▸ hp))) hp

theorem Run.only_of_mem_filed (run : Run r p hits calls outcomes q) (hp : f ∈ p.filed) :
    Only (.ok .duplicateOpen) (outcomesOf f hits outcomes) :=
  run.only (I := fun p => f ∈ p.filed) (fun hp d => d.mem_filed hp)
    (fun hp hf d => d.outcome_of_duplicateOpen (classify_of_mem_filed (hf ▸ hp))) hp

theorem Run.only_of_full (run : Run r p hits calls outcomes q) (hs : r.inventory.state? f = none)
    (hp : f ∉ p.filed) (full : r.cap ≤ p.filed.length) :
    Only (.error ⟨r.cap⟩) (outcomesOf f hits outcomes) := by
  refine run.only (I := fun p => f ∉ p.filed ∧ r.cap ≤ p.filed.length) (fun ⟨hp, full⟩ d => ?_)
    (fun ⟨hp, full⟩ hf d => d.outcome_of_full (classify_eq_new_iff.mpr (hf ▸ ⟨hp, hs⟩)) full) ⟨hp, full⟩
  rw [d.filed_of_full full]
  exact ⟨hp, full⟩

theorem Run.only_of_untracked (run : Run r p hits calls outcomes q) (hs : r.inventory.state? f = none)
    (untracked : r.tracker = none) (hp : p.filed = []) :
    Only (if 0 < r.cap then .ok .skipped else .error ⟨r.cap⟩) (outcomesOf f hits outcomes) := by
  refine run.only (I := fun p => p.filed = []) (fun hp d => ?_) (fun hp hf d => ?_) hp
  · cases d with
    | filed _ _ tracked _ => simp [untracked] at tracked
    | _ => exact hp
  · subst hf
    have new : r.classify _ _ = .new := classify_eq_new_iff.mpr ⟨hp ▸ List.not_mem_nil, hs⟩
    cases d with
    | duplicateOpen known => simp [new] at known
    | duplicateClosed known => simp [new] at known
    | capExceeded _ full => simp_all
    | skipped _ room _ => simp_all
    | filed _ _ tracked _ => simp [untracked] at tracked
    | filingFailed _ _ tracked _ => simp [untracked] at tracked

/-! ### A title without an issue -/

/-- A title that is neither filed nor in the inventory takes its course whatever happens to the others. -/
theorem Run.filingCourse (run : Run r p hits calls outcomes q) (hs : r.inventory.state? f = none)
    {t : Tracker σ} (tracked : r.tracker = some t) (hp : f ∉ p.filed) :
    FilingCourse r.cap (outcomesOf f hits outcomes) := by
  induction run with
  | nil => exact ⟨[], [], rfl, only_nil _, Or.inr (only_nil _)⟩
  | @cons p q u h hits calls later outcome outcomes first rest ih =>
    by_cases hf : h.fingerprint = f
    · subst hf
      have new : r.classify p h = .new := classify_eq_new_iff.mpr ⟨hp, hs⟩
      rw [outcomesOf_cons_of_eq rfl]
      cases first with
      | duplicateOpen known => simp [new] at known
      | duplicateClosed known => simp [new] at known
      | skipped _ _ untracked => simp [untracked] at tracked
      | capExceeded _ full =>
        exact ⟨[], _, rfl, only_nil _, Or.inr (only_cons (rest.only_of_full hs hp full))⟩
      | filed =>
        have filed := rest.only_of_mem_filed (List.mem_append_right _ (List.mem_singleton_self _))
        exact ⟨[], _, rfl, only_nil _, Or.inl ⟨_, rfl, filed⟩⟩
      | filingFailed =>
        obtain ⟨failed, later, heq, hfailed, hlater⟩ := ih hp
        exact ⟨_ :: failed, later, by rw [heq, List.cons_append], only_cons hfailed, hlater⟩
    · rw [outcomesOf_cons_of_ne hf]
      apply ih
      rcases first.filed_cases with heq | ⟨-, -, heq⟩
      · rwa [heq]
      · rw [heq, List.mem_append, List.mem_singleton]
        rintro (hf' | rfl)
        · exact hp hf'
        · exact hf rfl

/-- In every run, which may go on after hits that exceed the cap, the hits of each title take its course: only
open or only closed duplicates if the inventory says so, else failures followed by one filing and open duplicates
or by the cap; without a tracker they are skipped unless the cap is zero. -/
theorem outcomesOf_course (r : Reconciler σ) (stats : RunStats) (s : σ) (hits : List Hit) (f : Text) :
    let outcomes := (r.decideEach (.start stats s) hits).value.1
    outcomes.length = hits.length ∧ r.Course f (outcomesOf f hits outcomes) := by
  obtain ⟨calls, outcomes, q, run⟩ := exists_run r (.start stats s) hits
  have fresh : f ∉ (Progress.start stats s).filed := List.not_mem_nil
  simp only [run.decideEach]
  refine ⟨run.length_eq, ?_⟩
  unfold Course
  split
  · next hs => exact run.only_of_open hs
  · next hs => exact run.only_of_closed hs fresh
  · next hs ht => exact run.filingCourse hs ht fresh
  · next hs ht => exact run.only_of_untracked hs ht rfl

end TodoLedger.Reconciler
