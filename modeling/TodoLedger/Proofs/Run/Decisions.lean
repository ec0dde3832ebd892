import TodoLedger.Proofs.Run.Gate

/-! Decisions in a report. The report of a run that files its hits lists every hit of the scan; those before the hit
that exceeds the cap carry the decision that was made for them, and the counters count these decisions. -/

namespace TodoLedger

/-! ### Decisions by name -/

namespace RunStats.Undecided

variable {s : RunStats}

end RunStats.Undecided

/-! ### The document -/

namespace Report

variable {r : Report}

end Report

/-! ### The report of a run -/

namespace Check

variable {σ : Type} {s : Surroundings σ} {args : CheckArgs} {c : Checked σ}

end Check
end TodoLedger
