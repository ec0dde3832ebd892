import TodoLedger.Disk.Basic
import TodoLedger.Glob.Pattern
import TodoLedger.Http.Exchange
import TodoLedger.Log.Event
import TodoLedger.Repository
import TodoLedger.Run.Error

/-! Runs of a command: what they are given and what they leave behind. -/

namespace TodoLedger

/-- What a run is given besides its arguments. -/
structure Surroundings (σ : Type) where
  disk : Disk
  environment : Environment
  transport : Http.Transport σ
  /-- The state of the other side of the transport. -/
  peer : σ
  /-- Whether reports may be coloured. -/
  color : Bool := false
  /-- What makes a set of the patterns of a run. -/
  build : Glob.SetBuilder := Glob.SetBuilder.unlimited

/-- What a run leaves behind. -/
structure Ended (σ : Type) where
  /-- The exit code of a run that came to its end. -/
  result : Except RunError Nat
  /-- What was printed. -/
  printed : Text
  disk : Disk
  peer : σ

/-- Steps that trace events and may end the run. -/
abbrev Attempt := ExceptT RunError Log.Traced

namespace Attempt

/-- A result that may be an error of one part of the run. -/
def ofExcept {ε α : Type} (wrap : ε → RunError) (r : Except ε α) : Attempt α :=
  match r with
  | .ok a => pure a
  | .error e => throw (wrap e)

end Attempt

namespace Run

/-- The part of the program that runs commands. -/
def target : String := "todoon::cli"

/-- A warning of a command. -/
def warn (message : String) (fields : List (String × Text)) : Log.Traced Unit :=
  Log.emit .warn target message fields

end Run
end TodoLedger
