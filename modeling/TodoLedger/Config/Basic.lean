import TodoLedger.Reconciler
import TodoLedger.Scan

/-! The settings of a run. -/

namespace TodoLedger

/-- How the issue tracker is reached. -/
structure TrackerConfig where
  apiUrl : Text := "https://api.github.com".toList
  /-- How long a request may take, in milliseconds. -/
  timeout : Nat := 10000
  /-- Only issues by this creator count as filed before; without one all do. -/
  creator : Option Text := some "app/todo-or-not".toList
deriving DecidableEq, Repr

structure Config where
  contextLimit : Nat := Scanner.defaultContextLimit
  /-- How many issues a run may file. -/
  maxIssues : Nat := Reconciler.defaultCap
  failClosedDuplicates : Bool := false
  ignoreFlag : Text := Scanner.defaultFlag
  ignoreFile : Text := ".todo-ignore".toList
  /-- Ignore entries besides those of the ignore file. -/
  excludedPaths : List Text := []
  dryRun : Bool := false
  tracker : TrackerConfig := {}
deriving DecidableEq, Repr

end TodoLedger
