import TodoLedger.CommandLine.Parse
import TodoLedger.Log.Filter
import TodoLedger.Run.Check
import TodoLedger.Run.Ignore

/-! The program: it reads its command line, runs the command, and logs. -/

namespace TodoLedger.Program

/-- What the program leaves behind. -/
structure Finished (σ : Type) where
  exitCode : Nat
  printed : Text
  /-- The lines of the log. -/
  log : List Text
  /-- The lines about errors. -/
  errors : List Text
  disk : Disk
  peer : σ

/-- What is printed if the command line asks for help. -/
def usage : Text :=
  "Usage: todoon [-v] [-q] [-Q] check [FILES] [--root DIR] [-i] [-s] [-c] [-f] [--config FILE]\n".toList ++
  "           [--format pretty|json] [--max-issues N] [--context-limit N] [-P] [--github-env]\n".toList ++
  "           [--dry-run]\n".toList ++
  "       todoon [-v] [-q] [-Q] ignore [ENTRIES] [-p] [-u] [-o FILE]\n".toList

/-- What is printed in place of a command. -/
def usageText : UsageError → Text
  | .displayHelp => usage
  | .displayVersion => "todoon ".toList ++ version ++ ['\n']
  | _ => []

variable {σ : Type}

/-- Runs the command of a command line. -/
def command (s : Surroundings σ) (c : CommandLine) : Log.Traced (Ended σ) :=
  match c.command with
  | .check args => Check.run s args c.outputLevel
  | .ignore args => Ignore.run s args c.outputLevel

/-- The filter of the log: that of the environment if it can be read, else the level of the command line. -/
def filter (env : Environment) (c : CommandLine) : Log.Filter :=
  (((env "RUST_LOG".toList).bind Log.Filter.ofText?).or (Log.Filter.ofText? c.logLevel)).getD []

/-- Runs the program with the words of its command line. -/
def run (s : Surroundings σ) (words : List Text) : Finished σ :=
  match CommandLine.parse words with
  | .error e => ⟨e.exitCode, usageText e, [], [], s.disk, s.peer⟩
  | .ok c =>
    let ended := command s c
    let log := (ended.events.filter (filter s.environment c).passes).map (·.line)
    match ended.value.result with
    | .ok code => ⟨code, ended.value.printed, log, [], ended.value.disk, ended.value.peer⟩
    | .error e =>
      let errors := if c.outputLevel = .nothing then [] else ["Error: ".toList ++ e.message]
      ⟨RunError.exitCode, ended.value.printed, log, errors, ended.value.disk, ended.value.peer⟩

end TodoLedger.Program
