import TodoLedger.Proofs.Inventory.News
import TodoLedger.Proofs.Reconciler.UntilCap
import TodoLedger.Tracker.DryRun

/-! The two drivers of the reconciler. Deciding all hits is deciding them up to the cap, with the decisions dropped if
one exceeds it. Neither looks at the hits after that one. -/

namespace TodoLedger.Reconciler

variable {σ : Type} {r : Reconciler σ} {p q : Progress σ} {h : Hit} {done : List Hit} {calls : List Call}
  {ds : List Decision}

/-- What deciding all hits returns where a run up to the cap made these decisions and stopped so. -/
def allOrNone (ds : List Decision) : Option CapExceeded → Except CapExceeded (List Decision)
  | none => .ok ds
  | some e => .error e

theorem decideAll_eq (r : Reconciler σ) (p : Progress σ) (hits : List Hit) :
    (r.decideAll p hits).value =
      (allOrNone (r.decideUntilCap p hits).value.1.1 (r.decideUntilCap p hits).value.1.2,
        (r.decideUntilCap p hits).value.2) := by
  rcases exists_run_or_stops r p hits with ⟨calls, ds, q, run⟩ | ⟨done, h, later, calls, ds, q, rfl, stops⟩
  · rw [run.decideAll, run.decideUntilCap]
    rfl
  · rw [stops.decideAll, stops.decideUntilCap]
    rfl

theorem Stops.callsUntilCap (stops : Stops r p done h calls ds q) (later : List Hit) :
    r.callsUntilCap p (done ++ h :: later) = calls := by
  rw [Reconciler.callsUntilCap, (stops.recording []).decideUntilCap]
  rfl

theorem callsOfAll_eq (r : Reconciler σ) (p : Progress σ) (hits : List Hit) :
    r.callsOfAll p hits = r.callsUntilCap p hits := by
  rw [callsOfAll, callsUntilCap, decideAll_eq]

theorem events_decideAll (r : Reconciler σ) (p : Progress σ) (hits : List Hit) :
    (r.decideAll p hits).events = (r.decideUntilCap p hits).events := by
  induction hits generalizing p with
  | nil => rfl
  | cons h hits ih =>
    simp only [Reconciler.decideAll, Reconciler.decideUntilCap, Log.Traced.events_bind]
    rcases (r.step p h).value with ⟨_ | d, q⟩
    · rfl
    · simp only [Log.Traced.events_bind, Log.Traced.events_pure, ih]

/-! ### Behind the hit that exceeds the cap -/

theorem Run.events_decideUntilCap_append {outcomes : List (Except CapExceeded Decision)}
    (run : Run r p done calls outcomes q) (decided : outcomes = ds.map .ok) (later : List Hit) :
    (r.decideUntilCap p (done ++ later)).events =
      (r.decideUntilCap p done).events ++ (r.decideUntilCap q later).events := by
  induction run generalizing ds with
  | nil => rfl
  | @cons p q u h hits calls calls' outcome outcomes first _ ih =>
    obtain ⟨d, ds, rfl, rfl, rfl⟩ := List.map_eq_cons_iff.mp decided.symm
    simp only [List.cons_append, Reconciler.decideUntilCap, Log.Traced.events_bind, first.step, ih rfl,
      Log.Traced.events_pure, List.append_nil, List.append_assoc]

namespace Stops

/-- The hits behind the one that exceeds the cap are never looked at. -/
theorem decideUntilCap_congr (stops : Stops r p done h calls ds q) (later other : List Hit) :
    r.decideUntilCap p (done ++ h :: later) = r.decideUntilCap p (done ++ h :: other) := by
  refine Log.Traced.eq_of ?_ ?_
  · rw [stops.decideUntilCap, stops.decideUntilCap]
  · have step := (Decides.capExceeded stops.new stops.full).step
    have last : ∀ hits, (r.decideUntilCap q (h :: hits)).events = (r.step q h).events ++ [] := by
      intro hits
      rw [Reconciler.decideUntilCap, Log.Traced.events_bind, step]
      rfl
    rw [stops.run.events_decideUntilCap_append rfl, stops.run.events_decideUntilCap_append rfl, last, last]

theorem decideAll_congr (stops : Stops r p done h calls ds q) (later other : List Hit) :
    r.decideAll p (done ++ h :: later) = r.decideAll p (done ++ h :: other) := by
  refine Log.Traced.eq_of ?_ ?_
  · rw [stops.decideAll, stops.decideAll]
  · rw [events_decideAll, events_decideAll, stops.decideUntilCap_congr later other]

end Stops

theorem allOrNone_eq_ok_iff {ds' : List Decision} {stop : Option CapExceeded} :
    allOrNone ds stop = .ok ds' ↔ (ds, stop) = (ds', none) := by
  cases stop <;> simp [allOrNone]

theorem allOrNone_eq_error_iff {stop : Option CapExceeded} {e : CapExceeded} :
    allOrNone ds stop = .error e ↔ stop = some e := by
  cases stop <;> simp [allOrNone]

/-- Deciding all hits or none, and deciding them up to the one that exceeds the cap, make the same calls to the tracker,
tell the same events and come to the same progress: the counters, what is filed and the state of the tracker. All hits
are decided with some decisions exactly if the other driver makes these without being stopped, and they fail exactly with
what stops it. Both have then decided the hits before one that exceeds the cap, and would do the same whatever hits came
after it. -/
theorem decideAll_agrees (r : Reconciler σ) (p : Progress σ) (hits : List Hit) :
    let all := r.decideAll p hits
    let loop := r.decideUntilCap p hits
    r.callsOfAll p hits = r.callsUntilCap p hits ∧ all.events = loop.events ∧ all.value.2 = loop.value.2 ∧
      (∀ ds, all.value.1 = .ok ds ↔ loop.value.1 = (ds, none)) ∧
      (∀ e, all.value.1 = .error e ↔ loop.value.1.2 = some e) ∧
      ∀ e, loop.value.1.2 = some e → ∃ done h later, hits = done ++ h :: later ∧
        (r.decideAll p done).value = (.ok loop.value.1.1, loop.value.2) ∧
        (r.decideUntilCap p done).value = ((loop.value.1.1, none), loop.value.2) ∧
        (r.step loop.value.2 h).value = (.error e, loop.value.2) ∧
        ∀ other, r.decideAll p (done ++ h :: other) = all ∧ r.decideUntilCap p (done ++ h :: other) = loop ∧
          r.callsOfAll p (done ++ h :: other) = r.callsOfAll p done ∧
          r.callsUntilCap p (done ++ h :: other) = r.callsUntilCap p done := by
  intro all loop
  refine ⟨callsOfAll_eq r p hits, events_decideAll r p hits, ?_, fun ds => ?_, fun e => ?_, fun e stopped => ?_⟩
  · simp only [all, loop, decideAll_eq]
  · simp only [all, loop, decideAll_eq, allOrNone_eq_ok_iff]
  · simp only [all, loop, decideAll_eq, allOrNone_eq_error_iff]
  · rcases exists_run_or_stops r p hits with ⟨_, ds, q, run⟩ | ⟨done, h, later, calls, ds, q, rfl, stops⟩
    · simp only [loop, run.decideUntilCap, reduceCtorEq] at stopped
    · have value : loop.value = ((ds, some ⟨r.cap⟩), q) := stops.decideUntilCap later
      rw [value, Option.some.injEq] at stopped
      rw [value, ← stopped]
      refine ⟨done, h, later, rfl, stops.run.decideAll, stops.run.decideUntilCap,
        (Decides.capExceeded stops.new stops.full).step, fun other => ⟨?_, ?_, ?_, ?_⟩⟩
      · exact stops.decideAll_congr other later
      · exact stops.decideUntilCap_congr other later
      · rw [stops.callsOfAll, stops.run.callsOfAll]
      · rw [stops.callsUntilCap, stops.run.callsUntilCap]

/-- The first call for `a` fails and the second files it, so `b` exceeds a cap of one and `c` is never looked at. -/
theorem decideAll_agrees_after_failure :
    let t := Tracker.refusing (Tracker.dryRun Repository.placeholder []) false (· == 0) .timeout
    let start : Progress (Nat × List Payload) := .start {} (0, [])
    let r : Reconciler (Nat × List Payload) := ⟨some t, Inventory.empty, 1⟩
    let hits := [Hit.titled ['a'], Hit.titled ['a'], Hit.titled ['b'], Hit.titled ['c']]
    (r.decideUntilCap start hits).value.1 = ([.filingFailed, .filed], some ⟨1⟩) ∧
      (r.decideAll start hits).value.1 = .error ⟨1⟩ ∧ r.callsOfAll start hits = r.callsUntilCap start hits ∧
      ∃ done h later, hits = done ++ h :: later ∧
        (r.decideAll start done).value.1 = .ok [.filingFailed, .filed] ∧
        r.decideAll start (done ++ [h]) = r.decideAll start hits := by
  intro t start r hits
  have stopped : (r.decideUntilCap start hits).value.1 = ([.filingFailed, .filed], some ⟨1⟩) := by decide +kernel
  obtain ⟨calls, -, -, -, fails, breaks⟩ := decideAll_agrees r start hits
  have stop := congrArg Prod.snd stopped
  obtain ⟨done, h, later, split, decided, -, -, rest⟩ := breaks _ stop
  refine ⟨stopped, (fails _).mpr stop, calls, done, h, later, split, ?_, (rest []).1⟩
  rw [decided]
  exact congrArg (fun v => Except.ok v.1) stopped

end TodoLedger.Reconciler
