import TodoLedger.Proofs.Inventory.News
import TodoLedger.Proofs.Reconciler.Run
import TodoLedger.Tracker.DryRun

/-! After the cap was exceeded. The hit that exceeds it leaves everything as it was, and for good nothing is filed any
more: a new hit exceeds the cap again, and a duplicate is still decided and counted. -/

namespace TodoLedger

/-- What comes of a hit when no more may be filed. -/
def Classification.outcomeWhenFull (cap : Nat) : Classification → Except CapExceeded Decision
  | new => .error ⟨cap⟩
  | duplicateOpen => .ok .duplicateOpen
  | duplicateClosed => .ok .duplicateClosed

/-- The progress with more duplicates counted. -/
def Progress.withDuplicates {σ : Type} (p : Progress σ) (opened closed : Nat) : Progress σ :=
  { p with stats := { p.stats with
      duplicatesAvoided := p.stats.duplicatesAvoided + opened
      duplicateClosed := p.stats.duplicateClosed + closed } }

theorem Progress.withDuplicates_add {σ : Type} (p : Progress σ) (a b c d : Nat) :
    (p.withDuplicates a b).withDuplicates c d = p.withDuplicates (a + c) (b + d) := by
  simp only [withDuplicates, Nat.add_assoc]

namespace Reconciler

variable {σ : Type} {r : Reconciler σ} {p q : Progress σ} {h : Hit} {hits : List Hit} {calls : List Call}
  {outcome : Except CapExceeded Decision} {outcomes : List (Except CapExceeded Decision)} {e : CapExceeded}

/-- Counted duplicates do not change what hits are. -/
@[simp] theorem classify_withDuplicates (r : Reconciler σ) (p : Progress σ) (opened closed : Nat) :
    r.classify (p.withDuplicates opened closed) = r.classify p := rfl

/-- Nothing is done for a hit that exceeds the cap. -/
theorem Decides.of_error (decides : Decides r p h calls (.error e) q) :
    calls = [] ∧ q = p ∧ e = ⟨r.cap⟩ ∧ r.cap ≤ p.filed.length := by
  cases decides with
  | capExceeded new full => exact ⟨rfl, rfl, rfl, full⟩

/-- When no more may be filed, what a hit is settles what comes of it, and only duplicates are counted. -/
theorem Decides.of_full (decides : Decides r p h calls outcome q) (full : r.cap ≤ p.filed.length) :
    calls = [] ∧ outcome = (r.classify p h).outcomeWhenFull r.cap ∧
      q = p.withDuplicates ([r.classify p h].count .duplicateOpen) ([r.classify p h].count .duplicateClosed) := by
  cases decides with
  | duplicateOpen known =>
    rw [known]
    exact ⟨rfl, rfl, rfl⟩
  | duplicateClosed known =>
    rw [known]
    exact ⟨rfl, rfl, rfl⟩
  | capExceeded new _ =>
    rw [new]
    exact ⟨rfl, rfl, rfl⟩
  | skipped _ room _ => omega
  | filed _ room _ _ => omega
  | filingFailed _ room _ _ => omega

theorem Run.of_full (run : Run r p hits calls outcomes q) (full : r.cap ≤ p.filed.length) :
    calls = [] ∧ outcomes = (hits.map (r.classify p)).map (Classification.outcomeWhenFull r.cap) ∧
      q = p.withDuplicates ((hits.map (r.classify p)).count .duplicateOpen)
        ((hits.map (r.classify p)).count .duplicateClosed) := by
  induction run with
  | nil => exact ⟨rfl, rfl, rfl⟩
  | @cons p q u h hits calls later outcome outcomes first rest ih =>
    obtain ⟨rfl, rfl, rfl⟩ := first.of_full full
    obtain ⟨rfl, rfl, rfl⟩ := ih full
    rw [classify_withDuplicates, Progress.withDuplicates_add, ← List.count_append, ← List.count_append]
    exact ⟨rfl, rfl, rfl⟩

/-- A hit that exceeds the cap changes nothing, in the counters, in what is filed or at the tracker, and no call is made
for it. From then on, however the hits go on, none is made either and every hit stays what it was: a new one exceeds
the cap, and a duplicate is decided and counted as such. -/
theorem exceeded_for_good (r : Reconciler σ) (p : Progress σ) (h : Hit) {e : CapExceeded}
    (exceeded : (r.step p h).value.1 = .error e) :
    e = ⟨r.cap⟩ ∧ (r.step p h).value.2 = p ∧
      (∀ made, (r.recording.step (p.recorded made) h).value.2 = p.recorded made) ∧
      ∀ hits, let classes := hits.map (r.classify p)
        (r.decideEach p hits).value.1 = classes.map (Classification.outcomeWhenFull r.cap) ∧
        (r.decideEach p hits).value.2 =
          p.withDuplicates (classes.count .duplicateOpen) (classes.count .duplicateClosed) ∧
        r.callsOfEach p hits = [] ∧
        ∀ h', r.classify (r.decideEach p hits).value.2 h' = r.classify p h' := by
  obtain ⟨calls, outcome, q, decides⟩ := exists_decides r p h
  rw [decides.step] at exceeded ⊢
  obtain rfl : outcome = .error e := exceeded
  obtain ⟨rfl, rfl, rfl, full⟩ := decides.of_error
  refine ⟨rfl, rfl, fun made => ?_, fun hits => ?_⟩
  · rw [(decides.recording made).step, List.append_nil]
  · obtain ⟨calls, outcomes, u, run⟩ := exists_run r q hits
    obtain ⟨rfl, rfl, rfl⟩ := run.of_full full
    rw [run.decideEach, run.callsOfEach, classify_withDuplicates]
    exact ⟨rfl, rfl, rfl, fun _ => rfl⟩

/-- With a cap of one and `a` filed the hit `b` exceeds the cap; after it `b` and `d` do so again, while `a` is an open
and `c` a closed duplicate. -/
theorem exceeded_for_good_after_first :
    let t := Tracker.dryRun Repository.placeholder []
    let r : Reconciler (List Payload) := ⟨some t, .ofIssues [⟨['c'], .closed⟩], 1⟩
    let p : Progress (List Payload) :=
      ⟨[fingerprint ['a']], { issuesFiled := 1 }, [(Hit.titled ['a']).payload t.repository]⟩
    let hits := [Hit.titled ['a'], Hit.titled ['b'], Hit.titled ['c'], Hit.titled ['a'], Hit.titled ['d']]
    (r.step p (Hit.titled ['b'])).value.1 = .error ⟨1⟩ ∧ (r.step p (Hit.titled ['b'])).value.2 = p ∧
      (r.decideEach p hits).value.1 =
        [.ok .duplicateOpen, .error ⟨1⟩, .ok .duplicateClosed, .ok .duplicateOpen, .error ⟨1⟩] ∧
      (r.decideEach p hits).value.2 = p.withDuplicates 2 1 ∧ r.callsOfEach p hits = [] := by
  intro t r p hits
  have new : r.classify p (Hit.titled ['b']) = .new := by decide +kernel
  have full : r.cap ≤ p.filed.length := by decide
  have exceeded : (r.step p (Hit.titled ['b'])).value.1 = .error ⟨1⟩ :=
    congrArg Prod.fst (Decides.capExceeded new full).step
  have classes : hits.map (r.classify p) = [.duplicateOpen, .new, .duplicateClosed, .duplicateOpen, .new] := by
    decide +kernel
  obtain ⟨-, same, -, on⟩ := exceeded_for_good r p (Hit.titled ['b']) exceeded
  obtain ⟨outcomes, progress, calls, -⟩ := on hits
  rw [classes] at outcomes progress
  exact ⟨exceeded, same, outcomes, progress, calls⟩

end Reconciler
end TodoLedger
