import TodoLedger.Proofs.Reconciler.Cap

/-! Deciding hits up to the first that exceeds the cap. Where that is, is told by the issues the tracker created
before it, and the counters of the run tell what was decided until then. -/

namespace TodoLedger

/-! ### Counted decisions -/

namespace RunStats

/-- The counters after decisions were made. -/
def withDecisions (s : RunStats) (ds : List Decision) : RunStats :=
  { s with
    issuesFiled := s.issuesFiled + ds.count .filed
    issueFailures := s.issueFailures + (ds.count .filingFailed + ds.count .skipped)
    duplicatesAvoided := s.duplicatesAvoided + ds.count .duplicateOpen
    duplicateClosed := s.duplicateClosed + ds.count .duplicateClosed }

theorem withDecisions_append (s : RunStats) (ds ds' : List Decision) :
    s.withDecisions (ds ++ ds') = (s.withDecisions ds).withDecisions ds' := by
  simp only [withDecisions, List.count_append, RunStats.mk.injEq, true_and]
  refine ⟨?_, ?_, ?_, ?_⟩ <;> omega

end RunStats

namespace Reconciler

variable {σ : Type} {r : Reconciler σ} {p q : Progress σ} {h : Hit} {hits done : List Hit} {calls : List Call}
  {outcome : Except CapExceeded Decision} {outcomes : List (Except CapExceeded Decision)} {d : Decision}
  {ds : List Decision}

/-- The calls for issues while hits are decided up to the first that exceeds the cap. -/
def callsUntilCap (r : Reconciler σ) (p : Progress σ) (hits : List Hit) : List Call :=
  (r.recording.decideUntilCap (p.recorded []) hits).value.2.state.2

/-- A hit is met whose title has neither an issue in the inventory nor one that the tracker created for the hits before
it, and for these the tracker created as many issues as the cap allows. -/
def MeetsCap (r : Reconciler σ) (p : Progress σ) (hits : List Hit) : Prop :=
  ∃ done h later, hits = done ++ h :: later ∧
    (Call.created (r.callsUntilCap p done)).length = r.cap ∧
    r.inventory.state? h.fingerprint = none ∧
    ∀ c ∈ Call.created (r.callsUntilCap p done), fingerprint c.title ≠ h.fingerprint

/-! ### The driver -/

theorem Run.decideUntilCap_append (run : Run r p hits calls outcomes q) (decided : outcomes = ds.map .ok)
    (later : List Hit) :
    (r.decideUntilCap p (hits ++ later)).value =
      ((ds ++ (r.decideUntilCap q later).value.1.1, (r.decideUntilCap q later).value.1.2),
        (r.decideUntilCap q later).value.2) := by
  induction run generalizing ds with
  | nil =>
    obtain rfl := List.map_eq_nil_iff.mp decided.symm
    rfl
  | @cons p q u h hits calls calls' outcome outcomes first _ ih =>
    obtain ⟨d, ds, rfl, rfl, rfl⟩ := List.map_eq_cons_iff.mp decided.symm
    simp only [List.cons_append, Reconciler.decideUntilCap, Log.Traced.value_bind, first.step, ih rfl,
      Log.Traced.value_pure]

theorem Run.decideUntilCap (run : Run r p hits calls (ds.map .ok) q) :
    (r.decideUntilCap p hits).value = ((ds, none), q) := by
  have h := run.decideUntilCap_append rfl []
  simpa [Reconciler.decideUntilCap] using h

theorem Stops.decideUntilCap (stops : Stops r p done h calls ds q) (later : List Hit) :
    (r.decideUntilCap p (done ++ h :: later)).value = ((ds, some ⟨r.cap⟩), q) := by
  have step := (Decides.capExceeded stops.new stops.full).step
  rw [stops.run.decideUntilCap_append rfl (h :: later)]
  simp [Reconciler.decideUntilCap, step]

theorem Run.callsUntilCap (run : Run r p hits calls (ds.map .ok) q) : r.callsUntilCap p hits = calls := by
  rw [Reconciler.callsUntilCap, (run.recording []).decideUntilCap]
  rfl

/-! ### Which hit a decision is for -/

theorem Run.split {a b : List Hit} (run : Run r p (a ++ b) calls outcomes q) :
    ∃ before after first rest u, Run r p a before first u ∧ Run r u b after rest q ∧ calls = before ++ after ∧
      outcomes = first ++ rest := by
  induction a generalizing p calls outcomes with
  | nil => exact ⟨[], calls, [], outcomes, p, .nil p, run, rfl, rfl⟩
  | cons h a ih =>
    cases run with
    | @cons _ v _ _ _ calls later outcome outcomes decides tail =>
      obtain ⟨before, after, first, rest, u, front, back, rfl, rfl⟩ := ih tail
      exact ⟨calls ++ before, after, outcome :: first, rest, u, .cons decides front, back,
        (List.append_assoc ..).symm, rfl⟩

/-- Where a run from the start stops, the tracker has created just as many issues as the cap allows. -/
theorem Stops.meetsCap {stats : RunStats} {s : σ} (stops : Stops r (.start stats s) done h calls ds q)
    (later : List Hit) : MeetsCap r (.start stats s) (done ++ h :: later) := by
  have filed : q.filed = (Call.created calls).map fun c => fingerprint c.title := stops.run.filed_eq
  have count : q.filed.length = (Call.created calls).length := by rw [filed, List.length_map]
  have within := ((sound_start r stats s).run stops.run).within
  obtain ⟨fresh, absent⟩ := classify_eq_new_iff.mp stops.new
  refine ⟨done, h, later, rfl, ?_, absent, fun c hc same => ?_⟩
  · rw [stops.run.callsUntilCap, ← count]
    exact Nat.le_antisymm within stops.full
  · rw [stops.run.callsUntilCap] at hc
    exact fresh (filed ▸ List.mem_map.mpr ⟨c, hc, same⟩)

/-- A run that meets the cap does not come to its end. -/
theorem Run.not_meetsCap {stats : RunStats} {s : σ} (run : Run r (.start stats s) hits calls (ds.map .ok) q) :
    ¬MeetsCap r (.start stats s) hits := by
  rintro ⟨done, h, later, rfl, full, absent, fresh⟩
  obtain ⟨before, _, first, rest, u, front, back, -, decided⟩ := run.split
  obtain ⟨ds₁, ds₂, rfl, rfl, hrest⟩ := List.map_eq_append_iff.mp decided
  rw [front.callsUntilCap] at full fresh
  have filed : u.filed = (Call.created before).map fun c => fingerprint c.title := front.filed_eq
  have new : r.classify u h = .new := by
    refine classify_eq_new_iff.mpr ⟨fun known => ?_, absent⟩
    rw [filed, List.mem_map] at known
    obtain ⟨c, hc, same⟩ := known
    exact fresh c hc same
  have used_up : r.cap ≤ u.filed.length := Nat.le_of_eq (by rw [filed, List.length_map, full])
  cases back with
  | @cons _ _ _ _ _ _ _ outcome _ decides _ =>
    obtain ⟨d, _, -, ok, -⟩ := List.map_eq_cons_iff.mp hrest
    have stopped := (Decides.capExceeded new used_up).step
    rw [decides.step] at stopped
    cases (Prod.mk.inj stopped).1.symm.trans ok.symm

/-! ### The counters -/

theorem Decides.stats_eq (decides : Decides r p h calls (.ok d) q) : q.stats = p.stats.withDecisions [d] := by
  cases decides <;> rfl

theorem Run.stats_eq (run : Run r p hits calls outcomes q) (decided : outcomes = ds.map .ok) :
    q.stats = p.stats.withDecisions ds := by
  induction run generalizing ds with
  | nil =>
    obtain rfl := List.map_eq_nil_iff.mp decided.symm
    rfl
  | cons first _ ih =>
    obtain ⟨d, ds, rfl, rfl, rfl⟩ := List.map_eq_cons_iff.mp decided.symm
    rw [ih rfl, first.stats_eq, ← RunStats.withDecisions_append, List.singleton_append]

/-! ### Closed duplicates -/

/-- What was filed in the run has no entry in the inventory, so a closed entry decides. -/
theorem Decides.eq_duplicateClosed_iff (sound : Sound r p) (decides : Decides r p h calls (.ok d) q) :
    d = .duplicateClosed ↔ r.inventory.state? h.fingerprint = some .closed := by
  have closed : r.classify p h = .duplicateClosed ↔ r.inventory.state? h.fingerprint = some .closed := by
    constructor
    · intro hc
      by_cases hf : h.fingerprint ∈ p.filed
      · rw [classify_of_mem_filed hf] at hc
        cases hc
      · cases hs : r.inventory.state? h.fingerprint with
        | none =>
          rw [classify_eq_new_iff.mpr ⟨hf, hs⟩] at hc
          cases hc
        | some state =>
          cases state with
          | closed => rfl
          | isOpen =>
            rw [classify_of_open hs] at hc
            cases hc
    · intro hs
      refine classify_of_closed hs fun hf => ?_
      rw [sound.absent _ hf] at hs
      cases hs
  rw [← closed]
  cases decides with
  | duplicateClosed known => exact iff_of_true rfl known
  | duplicateOpen known => exact iff_of_false (by decide) (by rw [known]; decide)
  | skipped new | filed new | filingFailed new => exact iff_of_false (by decide) (by rw [new]; decide)

theorem Run.duplicateClosed_mem_iff (run : Run r p hits calls outcomes q) (sound : Sound r p)
    (decided : outcomes = ds.map .ok) :
    .duplicateClosed ∈ ds ↔ ∃ h ∈ hits, r.inventory.state? h.fingerprint = some .closed := by
  induction run generalizing ds with
  | nil =>
    obtain rfl := List.map_eq_nil_iff.mp decided.symm
    simp
  | cons first _ ih =>
    obtain ⟨d, ds, rfl, rfl, rfl⟩ := List.map_eq_cons_iff.mp decided.symm
    rw [List.mem_cons, ih (sound.decides first) rfl, eq_comm, first.eq_duplicateClosed_iff sound]
    simp

/-- The decisions up to the cap, from the start of a run: whether they stop is told by what the tracker created, the
counters count them, and if all hits are decided then there is one for each title with a closed entry. -/
theorem decideUntilCap_cases (r : Reconciler σ) (stats : RunStats) (s : σ) (hits : List Hit) :
    ∃ ds stop q, (r.decideUntilCap (.start stats s) hits).value = ((ds, stop), q) ∧
      q.stats = stats.withDecisions ds ∧
      (stop = some ⟨r.cap⟩ ∧ MeetsCap r (.start stats s) hits ∨
        stop = none ∧ ¬MeetsCap r (.start stats s) hits ∧
          (.duplicateClosed ∈ ds ↔ ∃ h ∈ hits, r.inventory.state? h.fingerprint = some .closed)) := by
  rcases exists_run_or_stops r (.start stats s) hits with ⟨_, ds, q, run⟩ | ⟨done, h, later, _, ds, q, rfl, stops⟩
  · exact ⟨ds, none, q, run.decideUntilCap, run.stats_eq rfl,
      Or.inr ⟨rfl, run.not_meetsCap, run.duplicateClosed_mem_iff (sound_start r stats s) rfl⟩⟩
  · exact ⟨ds, some ⟨r.cap⟩, q, stops.decideUntilCap later, stops.run.stats_eq rfl,
      Or.inl ⟨rfl, stops.meetsCap later⟩⟩

end Reconciler
end TodoLedger
