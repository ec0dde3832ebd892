import TodoLedger.CommandLine.Basic
import TodoLedger.Ignore.Entries
import TodoLedger.Run.Basic
import TodoLedger.Text.Basic

/-! The command that writes an ignore file, from entries or from files whose lines are entries. -/

namespace TodoLedger.Ignore

/-- The lines of a file as entries. -/
def linesAsEntries (t : Text) : List Text := ((Text.lines t).map Text.trim).filter (!·.isEmpty)

/-- The entries in files. A file that cannot be read is skipped with a warning. -/
def entriesOfFiles (d : Disk) : List Text → Log.Traced (List Text)
  | [] => pure []
  | source :: more => do
    let here ←
      match d.readText source with
      | .ok t => pure (linesAsEntries t)
      | .error e => do
        Run.warn "skipping source" [("file", source), ("error", e.message)]
        pure []
    return here ++ (← entriesOfFiles d more)

/-- What is printed about entries written. -/
def summary (args : IgnoreArgs) (count : Nat) : Text :=
  (if args.update then "Updated ".toList else "Created ".toList) ++ args.output ++ " (".toList ++
    Text.ofNat count ++ " entries)\n".toList

variable {σ : Type}

/-- Runs the command. -/
def run (s : Surroundings σ) (args : IgnoreArgs) (level : OutputLevel) : Log.Traced (Ended σ) := do
  let entries ← if args.paths then entriesOfFiles s.disk args.sources else pure args.sources
  match save s.disk args.output entries args.update with
  | .ok d => return ⟨.ok 0, if level = .nothing then [] else summary args entries.length, d, s.peer⟩
  | .error e => return ⟨.error (.scan e), [], s.disk, s.peer⟩

end TodoLedger.Ignore
