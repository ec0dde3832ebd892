import TodoLedger.RunStats
import TodoLedger.Tracker.Basic

/-! Reconciliation: for each hit it is decided whether an issue is filed. A hit whose title has an issue is a
duplicate; a new one is filed while fewer than `cap` issues were filed in this run. -/

namespace TodoLedger

/-- What came of a hit. -/
inductive Decision where
  | filed
  /-- The tracker refused the issue. -/
  | filingFailed
  /-- There is no tracker. -/
  | skipped
  | duplicateOpen
  | duplicateClosed
deriving DecidableEq, Repr

def Decision.name : Decision → Text
  | filed => "filed".toList
  | filingFailed => "filing_failed".toList
  | skipped => "skipped".toList
  | duplicateOpen => "duplicate_open".toList
  | duplicateClosed => "duplicate_closed".toList

/-- A new hit was met when as many issues had been filed as a run may file. -/
structure CapExceeded where
  cap : Nat
deriving DecidableEq, Repr

def CapExceeded.message (e : CapExceeded) : Text :=
  "maximum of ".toList ++ Text.ofNat e.cap ++
    " new issue(s) per run reached; remaining directives were not filed".toList

/-- What stays fixed while hits are reconciled. -/
structure Reconciler (σ : Type) where
  tracker : Option (Tracker σ)
  inventory : Inventory
  /-- How many issues a run may file. -/
  cap : Nat

/-- What changes while hits are reconciled. -/
structure Progress (σ : Type) where
  /-- The fingerprints of the issues filed in this run. -/
  filed : List Text
  stats : RunStats
  /-- The state of the tracker. -/
  state : σ

namespace Reconciler

variable {σ : Type}

def defaultCap : Nat := 8

/-- How a hit stands to the inventory and to what was filed in this run. -/
def classify (r : Reconciler σ) (p : Progress σ) (h : Hit) : Classification :=
  if p.filed.contains h.fingerprint then .duplicateOpen else r.inventory.classify h.fingerprint

/-- An event of the reconciliation. -/
def note (level : Log.Level) (message : String) (fields : List (String × Text)) : Log.Traced Unit :=
  Log.emit level "todoon::reconcile" message fields

/-- Asks the tracker to file a new hit. -/
def request (t : Tracker σ) (p : Progress σ) (h : Hit) : Log.Traced (Decision × Progress σ) :=
  let payload := h.payload t.repository
  let reply := t.create payload p.state
  let outcome : Log.Traced (Decision × Progress σ) :=
    match reply.result with
    | .ok () => do
      note .info "filed issue" [("title", payload.title)]
      pure (.filed, ⟨p.filed ++ [h.fingerprint],
        { p.stats with issuesFiled := p.stats.issuesFiled + 1 }, reply.state⟩)
    | .error e => do
      note .warn "failed to file issue" [("title", payload.title), ("error", e.message)]
      pure (.filingFailed, ⟨p.filed,
        { p.stats with issueFailures := p.stats.issueFailures + 1 }, reply.state⟩)
  ⟨outcome.value, reply.events ++ outcome.events⟩

/-- Files a new hit, if the cap and the lack of a tracker do not stop it. -/
def file (r : Reconciler σ) (p : Progress σ) (h : Hit) :
    Log.Traced (Except CapExceeded Decision × Progress σ) :=
  if r.cap ≤ p.filed.length then pure (.error ⟨r.cap⟩, p)
  else
    match r.tracker with
    | none => do
      note .warn "repository identity missing; issue not filed" [("hit", h.display)]
      pure (.ok .skipped, { p with stats := { p.stats with issueFailures := p.stats.issueFailures + 1 } })
    | some t => do
      let (decision, p) ← request t p h
      pure (.ok decision, p)

/-- Decides one hit. A failed filing does not use up the cap. -/
def step (r : Reconciler σ) (p : Progress σ) (h : Hit) :
    Log.Traced (Except CapExceeded Decision × Progress σ) :=
  match r.classify p h with
  | .duplicateOpen => do
    note .info "duplicate issue avoided" [("hit", h.display)]
    pure (.ok .duplicateOpen,
      { p with stats := { p.stats with duplicatesAvoided := p.stats.duplicatesAvoided + 1 } })
  | .duplicateClosed => do
    note .warn "directive matches a closed issue" [("hit", h.display)]
    pure (.ok .duplicateClosed,
      { p with stats := { p.stats with duplicateClosed := p.stats.duplicateClosed + 1 } })
  | .new => r.file p h

/-- Decides hits in order up to the first that exceeds the cap; the decisions made until then are kept. -/
def decideUntilCap (r : Reconciler σ) (p : Progress σ) :
    List Hit → Log.Traced ((List Decision × Option CapExceeded) × Progress σ)
  | [] => pure (([], none), p)
  | h :: hits => do
    let (outcome, p) ← r.step p h
    match outcome with
    | .error e => pure (([], some e), p)
    | .ok decision => do
      let ((decisions, stop), p) ← r.decideUntilCap p hits
      pure ((decision :: decisions, stop), p)

/-- Decides all hits in order, or none if one exceeds the cap. -/
def decideAll (r : Reconciler σ) (p : Progress σ) :
    List Hit → Log.Traced (Except CapExceeded (List Decision) × Progress σ)
  | [] => pure (.ok [], p)
  | h :: hits => do
    let (outcome, p) ← r.step p h
    match outcome with
    | .error e => pure (.error e, p)
    | .ok decision => do
      let (decisions, p) ← r.decideAll p hits
      pure (decisions.map (decision :: ·), p)

end Reconciler
end TodoLedger
