import TodoLedger.Proofs.Inventory.News
import TodoLedger.Proofs.Reconciler.Drivers
import TodoLedger.Tracker.DryRun

/-! Runs with a larger cap. What a run decides before its cap stops it, a run with a larger cap decides in the same
way and with the same calls; so the cap says where a run ends, and nothing else. -/

namespace TodoLedger.Reconciler

variable {σ : Type} {r : Reconciler σ} {p q : Progress σ} {h : Hit} {hits done : List Hit} {calls : List Call}
  {outcomes : List (Except CapExceeded Decision)} {d : Decision} {ds : List Decision} {cap : Nat}

/-- The reconciler with another cap. -/
def withCap (r : Reconciler σ) (cap : Nat) : Reconciler σ := { r with cap := cap }

/-! ### Decided hits -/

/-- Only for a new hit is the cap looked at, and a decided one had room below the smaller cap. -/
theorem Decides.withCap (decides : Decides r p h calls (.ok d) q) (larger : r.cap ≤ cap) :
    Decides (r.withCap cap) p h calls (.ok d) q := by
  have room' : p.filed.length < r.cap → p.filed.length < (r.withCap cap).cap := fun room =>
    Nat.lt_of_lt_of_le room larger
  cases decides with
  | duplicateOpen known => exact .duplicateOpen known
  | duplicateClosed known => exact .duplicateClosed known
  | skipped new room untracked => exact .skipped new (room' room) untracked
  | filed new room tracked ok => exact filed (r := r.withCap cap) new (room' room) tracked ok
  | filingFailed new room tracked refused =>
    exact filingFailed (r := r.withCap cap) new (room' room) tracked refused

theorem Run.withCap (run : Run r p hits calls outcomes q) (decided : outcomes = ds.map .ok) (larger : r.cap ≤ cap) :
    Run (r.withCap cap) p hits calls outcomes q := by
  induction run generalizing ds with
  | nil => exact .nil _
  | cons first _ ih =>
    obtain ⟨d, ds, rfl, rfl, rfl⟩ := List.map_eq_cons_iff.mp decided.symm
    exact .cons (first.withCap larger) (ih rfl)

/-! ### What comes first in a run -/

/-- The record of calls only grows. -/
theorem prefix_recorded (r : Reconciler σ) (p : Progress σ) (before : List Call) (hits : List Hit) :
    before <+: (r.recording.decideUntilCap (p.recorded before) hits).value.2.state.2 := by
  rcases exists_run_or_stops r p hits with ⟨calls, ds, q, run⟩ | ⟨done, h, later, calls, ds, q, rfl, stops⟩
  · rw [(run.recording before).decideUntilCap]
    exact List.prefix_append before calls
  · rw [(stops.recording before).decideUntilCap]
    exact List.prefix_append before calls

/-- Hits that are decided come first in a longer run, and so do their calls. -/
theorem Run.prefix_untilCap (run : Run r p done calls (ds.map .ok) q) (later : List Hit) :
    ds <+: (r.decideUntilCap p (done ++ later)).value.1.1 ∧ calls <+: r.callsUntilCap p (done ++ later) := by
  constructor
  · rw [run.decideUntilCap_append rfl later]
    exact List.prefix_append ds _
  · rw [Reconciler.callsUntilCap, (run.recording []).decideUntilCap_append rfl later, List.nil_append]
    exact prefix_recorded r q calls later

/-! ### Two caps -/

theorem prefix_withCap (larger : r.cap ≤ cap) (p : Progress σ) (hits : List Hit) :
    (r.decideUntilCap p hits).value.1.1 <+: ((r.withCap cap).decideUntilCap p hits).value.1.1 ∧
      r.callsUntilCap p hits <+: (r.withCap cap).callsUntilCap p hits := by
  rcases exists_run_or_stops r p hits with ⟨calls, ds, q, run⟩ | ⟨done, h, later, calls, ds, q, rfl, stops⟩
  · have run' := run.withCap rfl larger
    rw [run.decideUntilCap, run'.decideUntilCap, run.callsUntilCap, run'.callsUntilCap]
    exact ⟨List.prefix_refl ds, List.prefix_refl calls⟩
  · have run' := stops.run.withCap rfl larger
    rw [stops.decideUntilCap, stops.callsUntilCap]
    exact run'.prefix_untilCap (h :: later)

theorem decideUntilCap_withCap (larger : r.cap ≤ cap) (p : Progress σ) (hits : List Hit)
    (ended : (r.decideUntilCap p hits).value.1.2 = none) :
    ((r.withCap cap).decideUntilCap p hits).value = (r.decideUntilCap p hits).value ∧
      (r.withCap cap).callsUntilCap p hits = r.callsUntilCap p hits := by
  rcases exists_run_or_stops r p hits with ⟨calls, ds, q, run⟩ | ⟨done, h, later, calls, ds, q, rfl, stops⟩
  · have run' := run.withCap rfl larger
    rw [run.decideUntilCap, run'.decideUntilCap, run.callsUntilCap, run'.callsUntilCap]
    exact ⟨rfl, rfl⟩
  · rw [stops.decideUntilCap] at ended
    cases ended

/-- A run with a larger cap makes the decisions and the calls of one with a smaller cap, and then perhaps more. If the
one with the smaller cap comes to its end, then both come to the same end, with the same decisions, counters and calls.
The tracker may answer in any way, or there may be none. -/
theorem larger_cap_extends (tracker : Option (Tracker σ)) (inventory : Inventory) (p : Progress σ) (hits : List Hit)
    {m m' : Nat} (larger : m ≤ m') :
    let r : Reconciler σ := ⟨tracker, inventory, m⟩
    let r' : Reconciler σ := ⟨tracker, inventory, m'⟩
    (r.decideUntilCap p hits).value.1.1 <+: (r'.decideUntilCap p hits).value.1.1 ∧
      r.callsUntilCap p hits <+: r'.callsUntilCap p hits ∧
      ((r.decideUntilCap p hits).value.1.2 = none →
        (r'.decideUntilCap p hits).value = (r.decideUntilCap p hits).value ∧
          r'.callsUntilCap p hits = r.callsUntilCap p hits) ∧
      r.callsOfAll p hits <+: r'.callsOfAll p hits ∧
      ∀ ds, (r.decideAll p hits).value.1 = .ok ds →
        (r'.decideAll p hits).value = (r.decideAll p hits).value ∧ r'.callsOfAll p hits = r.callsOfAll p hits := by
  intro r r'
  obtain ⟨decisions, calls⟩ := prefix_withCap (r := r) larger p hits
  have same := decideUntilCap_withCap (r := r) larger p hits
  rw [callsOfAll_eq, callsOfAll_eq]
  refine ⟨decisions, calls, same, calls, fun ds decided => ?_⟩
  rw [decideAll_eq] at decided
  have ended : (r.decideUntilCap p hits).value.1.2 = none := by
    cases stop : (r.decideUntilCap p hits).value.1.2 with
    | none => rfl
    | some e =>
      rw [stop] at decided
      cases decided
  obtain ⟨value, made⟩ : (r'.decideUntilCap p hits).value = _ ∧ r'.callsUntilCap p hits = _ := same ended
  refine ⟨?_, made⟩
  rw [decideAll_eq, decideAll_eq, value]

/-- The first call fails, so with a cap of one the run files `b` and stops at `c`, and with a cap of two it files `c`
as well and stops at `d`. Without `c` and `d` both runs come to the same end. -/
theorem larger_cap_extends_after_failure :
    let t := Tracker.refusing (Tracker.dryRun Repository.placeholder []) false (· == 0) .timeout
    let start : Progress (Nat × List Payload) := .start {} (0, [])
    let r : Reconciler (Nat × List Payload) := ⟨some t, Inventory.empty, 1⟩
    let r' : Reconciler (Nat × List Payload) := ⟨some t, Inventory.empty, 2⟩
    let some_hits := [Hit.titled ['a'], Hit.titled ['b']]
    let hits := [Hit.titled ['a'], Hit.titled ['b'], Hit.titled ['c'], Hit.titled ['d']]
    1 ≤ 2 ∧ (r.decideUntilCap start hits).value.1 = ([.filingFailed, .filed], some ⟨1⟩) ∧
      (r'.decideUntilCap start hits).value.1 = ([.filingFailed, .filed, .filed], some ⟨2⟩) ∧
      (r.decideUntilCap start hits).value.1.1 <+: (r'.decideUntilCap start hits).value.1.1 ∧
      r.callsUntilCap start hits <+: r'.callsUntilCap start hits ∧
      (r.decideUntilCap start some_hits).value.1.2 = none ∧
      (r'.decideUntilCap start some_hits).value = (r.decideUntilCap start some_hits).value ∧
      (r.decideAll start some_hits).value.1 = .ok [.filingFailed, .filed] ∧
      (r'.decideAll start some_hits).value = (r.decideAll start some_hits).value := by
  intro t start r r' some_hits hits
  have more : 1 ≤ 2 := by decide
  have extends_hits := larger_cap_extends (some t) Inventory.empty start hits more
  have extends_some := larger_cap_extends (some t) Inventory.empty start some_hits more
  have stopped : (r.decideUntilCap start hits).value.1 = ([.filingFailed, .filed], some ⟨1⟩) := by decide +kernel
  have stopped' : (r'.decideUntilCap start hits).value.1 = ([.filingFailed, .filed, .filed], some ⟨2⟩) := by
    decide +kernel
  have ended : (r.decideUntilCap start some_hits).value.1 = ([.filingFailed, .filed], none) := by decide +kernel
  have decided : (r.decideAll start some_hits).value.1 = .ok [.filingFailed, .filed] := by
    rw [decideAll_eq, ended]
    rfl
  clear_value t start some_hits hits
  exact ⟨more, stopped, stopped', extends_hits.1, extends_hits.2.1, congrArg Prod.snd ended,
    (extends_some.2.2.1 (congrArg Prod.snd ended)).1, decided, (extends_some.2.2.2.2 _ decided).1⟩

end TodoLedger.Reconciler
