import TodoLedger.Proofs.Reconciler.Calls

/-! Runs of the reconciler as a relation: how one hit is decided, with the calls that are made for it, and how
a list of hits is. Each driver goes through such a run, with or without a record of its calls. -/

namespace TodoLedger.Reconciler

variable {σ : Type} {r : Reconciler σ} {p q : Progress σ} {h : Hit} {hits : List Hit} {calls : List Call}
  {outcome : Except CapExceeded Decision} {outcomes : List (Except CapExceeded Decision)} {ds : List Decision}

/-! ### What a hit is -/

theorem classify_eq_new_iff : r.classify p h = .new ↔
    h.fingerprint ∉ p.filed ∧ r.inventory.state? h.fingerprint = none := by
  simp only [classify, List.contains_iff_mem, Inventory.classify]
  by_cases hf : h.fingerprint ∈ p.filed
  · simp [hf]
  · cases r.inventory.state? h.fingerprint with
    | none => simp [hf]
    | some s => cases s <;> simp [hf]

theorem classify_ne_new_iff : r.classify p h ≠ .new ↔
    h.fingerprint ∈ p.filed ∨ r.inventory.state? h.fingerprint ≠ none := by
  rw [ne_eq, classify_eq_new_iff, Decidable.not_and_iff_not_or_not, Decidable.not_not]

theorem classify_of_mem_filed (hf : h.fingerprint ∈ p.filed) : r.classify p h = .duplicateOpen := by
  simp [classify, hf]

theorem classify_of_open (hs : r.inventory.state? h.fingerprint = some .isOpen) :
    r.classify p h = .duplicateOpen := by
  simp [classify, Inventory.classify, hs]

theorem classify_of_closed (hs : r.inventory.state? h.fingerprint = some .closed) (hf : h.fingerprint ∉ p.filed) :
    r.classify p h = .duplicateClosed := by
  simp [classify, Inventory.classify, hs, hf]

/-! ### One hit -/

/-- How a hit is decided: the calls that are made, the outcome and the progress after it. -/
inductive Decides (r : Reconciler σ) (p : Progress σ) (h : Hit) :
    List Call → Except CapExceeded Decision → Progress σ → Prop
  | duplicateOpen (known : r.classify p h = .duplicateOpen) : Decides r p h [] (.ok .duplicateOpen)
      { p with stats := { p.stats with duplicatesAvoided := p.stats.duplicatesAvoided + 1 } }
  | duplicateClosed (known : r.classify p h = .duplicateClosed) : Decides r p h [] (.ok .duplicateClosed)
      { p with stats := { p.stats with duplicateClosed := p.stats.duplicateClosed + 1 } }
  | capExceeded (new : r.classify p h = .new) (full : r.cap ≤ p.filed.length) :
      Decides r p h [] (.error ⟨r.cap⟩) p
  | skipped (new : r.classify p h = .new) (room : p.filed.length < r.cap) (untracked : r.tracker = none) :
      Decides r p h [] (.ok .skipped)
        { p with stats := { p.stats with issueFailures := p.stats.issueFailures + 1 } }
  | filed (new : r.classify p h = .new) (room : p.filed.length < r.cap) {t : Tracker σ} (tracked : r.tracker = some t)
      (ok : (t.create (h.payload t.repository) p.state).result = .ok ()) :
      Decides r p h [⟨h.payload t.repository, .ok ()⟩] (.ok .filed)
        ⟨p.filed ++ [h.fingerprint], { p.stats with issuesFiled := p.stats.issuesFiled + 1 },
          (t.create (h.payload t.repository) p.state).state⟩
  | filingFailed (new : r.classify p h = .new) (room : p.filed.length < r.cap) {t : Tracker σ}
      (tracked : r.tracker = some t) {e : TrackerError}
      (refused : (t.create (h.payload t.repository) p.state).result = .error e) :
      Decides r p h [⟨h.payload t.repository, .error e⟩] (.ok .filingFailed)
        ⟨p.filed, { p.stats with issueFailures := p.stats.issueFailures + 1 },
          (t.create (h.payload t.repository) p.state).state⟩

theorem exists_decides (r : Reconciler σ) (p : Progress σ) (h : Hit) :
    ∃ calls outcome q, Decides r p h calls outcome q := by
  cases hc : r.classify p h with
  | duplicateOpen => exact ⟨_, _, _, .duplicateOpen hc⟩
  | duplicateClosed => exact ⟨_, _, _, .duplicateClosed hc⟩
  | new =>
    rcases Nat.lt_or_ge p.filed.length r.cap with room | full
    · cases ht : r.tracker with
      | none => exact ⟨_, _, _, .skipped hc room ht⟩
      | some t =>
        cases hr : (t.create (h.payload t.repository) p.state).result with
        | ok _ => exact ⟨_, _, _, .filed hc room ht hr⟩
        | error e => exact ⟨_, _, _, .filingFailed hc room ht hr⟩
    · exact ⟨_, _, _, .capExceeded hc full⟩

/-- The reconciler decides a hit as the relation says. -/
theorem Decides.step (d : Decides r p h calls outcome q) : (r.step p h).value = (outcome, q) := by
  cases d with
  | duplicateOpen known => simp [Reconciler.step, known]
  | duplicateClosed known => simp [Reconciler.step, known]
  | capExceeded new full => simp [Reconciler.step, Reconciler.file, new, full]
  | skipped new room untracked =>
    simp [Reconciler.step, Reconciler.file, new, untracked, Nat.not_le_of_lt room]
  | filed new room tracked ok =>
    simp [Reconciler.step, Reconciler.file, Reconciler.request, new, tracked, ok, Nat.not_le_of_lt room]
  | filingFailed new room tracked refused =>
    simp [Reconciler.step, Reconciler.file, Reconciler.request, new, tracked, refused, Nat.not_le_of_lt room]

/-- With a record of the calls a hit is decided in the same way, and its calls are added to the record. -/
theorem Decides.recording (d : Decides r p h calls outcome q) (before : List Call) :
    Decides r.recording (p.recorded before) h calls outcome (q.recorded (before ++ calls)) := by
  cases d with
  | duplicateOpen known =>
    rw [List.append_nil]
    exact duplicateOpen (p := p.recorded before) known
  | duplicateClosed known =>
    rw [List.append_nil]
    exact duplicateClosed (p := p.recorded before) known
  | capExceeded new full =>
    rw [List.append_nil]
    exact capExceeded (p := p.recorded before) new full
  | skipped new room untracked =>
    rw [List.append_nil]
    exact skipped (p := p.recorded before) new room (by simp [Reconciler.recording, untracked])
  | @filed new room t tracked ok =>
    have d := filed (r := r.recording) (p := p.recorded before) new room (t := t.recording)
      (by simp [Reconciler.recording, tracked]) ok
    simpa [Progress.recorded, Tracker.recording, ok] using d
  | @filingFailed new room t tracked e refused =>
    have d := filingFailed (r := r.recording) (p := p.recorded before) new room (t := t.recording)
      (by simp [Reconciler.recording, tracked]) refused
    simpa [Progress.recorded, Tracker.recording, refused] using d

/-! ### Lists of hits -/

/-- How hits are decided one after another: the calls that are made, the outcomes and the progress after the
last hit. -/
inductive Run (r : Reconciler σ) :
    Progress σ → List Hit → List Call → List (Except CapExceeded Decision) → Progress σ → Prop
  | nil (p : Progress σ) : Run r p [] [] [] p
  | cons {p q u : Progress σ} {h : Hit} {hits : List Hit} {calls later : List Call}
      {outcome : Except CapExceeded Decision} {outcomes : List (Except CapExceeded Decision)}
      (first : Decides r p h calls outcome q) (rest : Run r q hits later outcomes u) :
      Run r p (h :: hits) (calls ++ later) (outcome :: outcomes) u

theorem exists_run (r : Reconciler σ) (p : Progress σ) (hits : List Hit) :
    ∃ calls outcomes q, Run r p hits calls outcomes q := by
  induction hits generalizing p with
  | nil => exact ⟨_, _, _, .nil p⟩
  | cons h hits ih =>
    obtain ⟨_, _, q, first⟩ := exists_decides r p h
    obtain ⟨_, _, _, rest⟩ := ih q
    exact ⟨_, _, _, .cons first rest⟩

theorem Run.recording (run : Run r p hits calls outcomes q) (before : List Call) :
    Run r.recording (p.recorded before) hits calls outcomes (q.recorded (before ++ calls)) := by
  induction run generalizing before with
  | nil p =>
    rw [List.append_nil]
    exact .nil _
  | @cons p q u h hits calls later outcome outcomes first _ ih =>
    rw [← List.append_assoc]
    exact .cons (first.recording before) (ih (before ++ calls))

theorem Run.append {a b : List Hit} {later : List Call} {outcomes' : List (Except CapExceeded Decision)}
    {u : Progress σ} (run : Run r p a calls outcomes q) (rest : Run r q b later outcomes' u) :
    Run r p (a ++ b) (calls ++ later) (outcomes ++ outcomes') u := by
  induction run with
  | nil => exact rest
  | cons first _ ih =>
    rw [List.append_assoc]
    exact .cons first (ih rest)

theorem Run.length_eq (run : Run r p hits calls outcomes q) : outcomes.length = hits.length := by
  induction run with
  | nil => rfl
  | cons _ _ ih => rw [List.length_cons, List.length_cons, ih]

/-! ### Drivers -/

theorem Run.decideEach (run : Run r p hits calls outcomes q) : (r.decideEach p hits).value = (outcomes, q) := by
  induction run with
  | nil => rfl
  | cons first _ ih => simp [Reconciler.decideEach, first.step, ih]

theorem Run.callsOfEach (run : Run r p hits calls outcomes q) : r.callsOfEach p hits = calls := by
  rw [Reconciler.callsOfEach, (run.recording []).decideEach]
  rfl

/-- Hits that are decided do not stop the decision of those after them. -/
theorem Run.decideAll_append (run : Run r p hits calls outcomes q) (decided : outcomes = ds.map .ok)
    (later : List Hit) :
    (r.decideAll p (hits ++ later)).value =
      ((r.decideAll q later).value.1.map (ds ++ ·), (r.decideAll q later).value.2) := by
  induction run generalizing ds with
  | nil =>
    obtain rfl := List.map_eq_nil_iff.mp decided.symm
    rw [List.nil_append]
    rcases (r.decideAll _ later).value with ⟨_ | _, _⟩ <;> rfl
  | @cons p q u h hits calls calls' outcome outcomes first _ ih =>
    obtain ⟨d, ds, rfl, rfl, rfl⟩ := List.map_eq_cons_iff.mp decided.symm
    simp only [List.cons_append, Reconciler.decideAll, Log.Traced.value_bind, first.step, ih rfl, Log.Traced.value_pure]
    rcases (r.decideAll u later).value with ⟨_ | _, _⟩ <;> rfl

theorem Run.decideAll (run : Run r p hits calls (ds.map .ok) q) : (r.decideAll p hits).value = (.ok ds, q) := by
  have h := run.decideAll_append rfl []
  simpa [Reconciler.decideAll, Except.map] using h

/-- The hits of `done` are decided, and the hit after them exceeds the cap. -/
structure Stops (r : Reconciler σ) (p : Progress σ) (done : List Hit) (h : Hit) (calls : List Call)
    (ds : List Decision) (q : Progress σ) : Prop where
  run : Run r p done calls (ds.map .ok) q
  new : r.classify q h = .new
  full : r.cap ≤ q.filed.length

theorem Stops.recording {done : List Hit} (stops : Stops r p done h calls ds q) (before : List Call) :
    Stops r.recording (p.recorded before) done h calls ds (q.recorded (before ++ calls)) :=
  ⟨stops.run.recording before, stops.new, stops.full⟩

theorem Stops.decideAll {done : List Hit} (stops : Stops r p done h calls ds q) (later : List Hit) :
    (r.decideAll p (done ++ h :: later)).value = (.error ⟨r.cap⟩, q) := by
  have step := (Decides.capExceeded stops.new stops.full).step
  rw [stops.run.decideAll_append rfl (h :: later)]
  simp [Reconciler.decideAll, step, Except.map]

/-- Either all hits are decided, or one of them exceeds the cap. -/
theorem exists_run_or_stops (r : Reconciler σ) (p : Progress σ) (hits : List Hit) :
    (∃ (calls : List Call) (ds : List Decision) (q : Progress σ), Run r p hits calls (ds.map .ok) q) ∨
      ∃ done h later calls ds q, hits = done ++ h :: later ∧ Stops r p done h calls ds q := by
  induction hits generalizing p with
  | nil => exact Or.inl ⟨[], [], p, .nil p⟩
  | cons h hits ih =>
    obtain ⟨calls, outcome, q, first⟩ := exists_decides r p h
    cases outcome with
    | error e =>
      cases first with
      | capExceeded new full => exact Or.inr ⟨[], h, hits, [], [], p, rfl, .nil p, new, full⟩
    | ok d =>
      rcases ih q with ⟨_, ds, _, run⟩ | ⟨done, h', later, _, ds, u, rfl, stops⟩
      · exact Or.inl ⟨_, d :: ds, _, .cons first run⟩
      · exact Or.inr ⟨h :: done, h', later, _, d :: ds, u, rfl, .cons first stops.run, stops.new, stops.full⟩

theorem Run.callsOfAll (run : Run r p hits calls (ds.map .ok) q) : r.callsOfAll p hits = calls := by
  rw [Reconciler.callsOfAll, (run.recording []).decideAll]
  rfl

theorem Stops.callsOfAll {done : List Hit} (stops : Stops r p done h calls ds q) (later : List Hit) :
    r.callsOfAll p (done ++ h :: later) = calls := by
  rw [Reconciler.callsOfAll, (stops.recording []).decideAll]
  rfl

end TodoLedger.Reconciler
