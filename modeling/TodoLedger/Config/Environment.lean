import TodoLedger.Config.Basic
import TodoLedger.Log.Event
import TodoLedger.Repository

/-! Settings from the environment, which go before those of a file. -/

namespace TodoLedger.Config

/-- A count from the environment; anything else counts as the default, with a warning. -/
def countOr (name : String) (raw : Text) (default : Nat) : Log.Traced Nat :=
  match Text.count? (Text.trim raw) with
  | some n => pure n
  | none => do
    Log.emit .warn "todoon::config" "unparseable value, using default"
      [("variable", Text.quoted name.toList), ("value", Text.quoted raw), ("fallback", Text.ofNat default)]
    pure default

/-- A text that says yes. -/
def isTruthy (raw : Text) : Bool :=
  ["true", "yes", "y", "1"].any (·.toList == Text.lowerAscii (Text.trim raw))

/-- A count that the environment may set. -/
def countSetting (env : Environment) (name : String) (default current : Nat) : Log.Traced Nat :=
  match env name.toList with
  | some raw => countOr name raw default
  | none => pure current

/-- The settings with those of the environment. -/
def withEnvironment (config : Config) (env : Environment) : Log.Traced Config := do
  let contextLimit ←
    countSetting env "PERTINENT_LINE_LIMIT" Scanner.defaultContextLimit config.contextLimit
  let maxIssues ← countSetting env "MAXIMUM_ISSUES_GENERATED" Reconciler.defaultCap config.maxIssues
  let dryRun := ((env "DEBUG".toList).map isTruthy).getD config.dryRun
  pure { config with contextLimit, maxIssues, dryRun }

end TodoLedger.Config
