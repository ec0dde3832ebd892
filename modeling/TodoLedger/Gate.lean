import TodoLedger.Reconciler

/-! The gate: whether a run passes, and what a report tells about the run. A run fails if it found directives and is not
silent, or if directives of closed issues count as failures and there were some, silent or not. -/

namespace TodoLedger

/-- Why a run fails. -/
inductive GateFailure where
  | hitsFound (count : Nat)
  | closedDuplicates (count : Nat)
deriving DecidableEq, Repr

def GateFailure.message : GateFailure → Text
  | hitsFound n => Text.ofNat n ++ " TODO/FIXME directive(s) found".toList
  | closedDuplicates n => Text.ofNat n ++ " directive(s) match previously closed issues".toList

/-- The outcome of the gate. -/
structure Verdict where
  failures : List GateFailure
deriving DecidableEq, Repr

namespace Verdict

def passed (v : Verdict) : Bool := v.failures.isEmpty

/-- The verdict on a run with these counters. -/
def ofStats (s : RunStats) (silent failClosedDuplicates : Bool) : Verdict where
  failures :=
    (if 0 < s.hits && !silent then [.hitsFound s.hits] else []) ++
      if 0 < s.duplicateClosed && failClosedDuplicates then [.closedDuplicates s.duplicateClosed] else []

end Verdict

/-- Whether a run lists its hits or files them. -/
inductive Mode where
  | print
  | issue
deriving DecidableEq, Repr

def Mode.name : Mode → Text
  | print => "print".toList
  | issue => "issue".toList

/-- A finished run. -/
structure Report where
  /-- The scan root. -/
  path : Text
  mode : Mode
  hits : List Hit
  /-- The decisions on the first hits; fewer than hits in print mode and where the run was cut short. -/
  decisions : List Decision
  stats : RunStats
  verdict : Verdict

namespace Report

/-- Each hit with its decision, if one was made. -/
def decided (r : Report) : List (Hit × Option Decision) :=
  r.hits.zipIdx.map fun (h, i) => (h, r.decisions[i]?)

end Report

end TodoLedger
