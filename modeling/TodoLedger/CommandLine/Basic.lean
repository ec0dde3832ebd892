import TodoLedger.Text.Basic

/-! What a command line asks for. -/

namespace TodoLedger

/-- What `check` is asked to do. -/
structure CheckArgs where
  /-- Files and directories to scan; without them the whole root is scanned. -/
  files : List Text := []
  root : Text := ['.']
  /-- File hits as issues instead of listing them. -/
  issue : Bool := false
  /-- Directives are no failure. -/
  silent : Bool := false
  closedDuplicatesFail : Bool := false
  /-- Run without an ignore file. -/
  force : Bool := false
  /-- The file with the settings. -/
  config : Option Text := none
  format : Text := "pretty".toList
  maxIssues : Option Nat := none
  contextLimit : Option Nat := none
  progressBar : Bool := false
  /-- Append the counters to the environment file. -/
  githubEnv : Bool := false
  dryRun : Bool := false
deriving DecidableEq, Repr

/-- What `ignore` is asked to do. -/
structure IgnoreArgs where
  /-- Entries, or with `paths` files whose lines are entries. -/
  sources : List Text := []
  paths : Bool := false
  /-- Append to a file that exists. -/
  update : Bool := false
  output : Text := ".todo-ignore".toList
deriving DecidableEq, Repr

inductive Command where
  | check (args : CheckArgs)
  | ignore (args : IgnoreArgs)
deriving DecidableEq, Repr

/-- How much is printed. -/
inductive OutputLevel where
  | full
  | summary
  | nothing
deriving DecidableEq, Repr

structure CommandLine where
  verbose : Nat := 0
  quiet : Bool := false
  veryQuiet : Bool := false
  command : Command
deriving DecidableEq, Repr

namespace CommandLine

def outputLevel (c : CommandLine) : OutputLevel :=
  if c.veryQuiet then .nothing else if c.quiet then .summary else .full

/-- The gravity from which on events are logged if the environment does not say. -/
def logLevel (c : CommandLine) : Text :=
  match c.outputLevel, c.verbose with
  | .nothing, _ => "off".toList
  | .summary, _ => "error".toList
  | .full, 0 => "warn".toList
  | .full, 1 => "debug".toList
  | .full, _ => "trace".toList

end CommandLine

/-- Why a command line is not carried out. -/
inductive UsageError where
  | displayHelp
  | displayVersion
  /-- Nothing is asked for. -/
  | nothingGiven
  | missingSubcommand
  | invalidSubcommand
  | unknownArgument
  /-- An argument is given twice. -/
  | argumentConflict
  /-- A flag is given a value. -/
  | tooManyValues
  /-- A value is missing or empty. -/
  | invalidValue
  /-- A value is no count. -/
  | valueValidation
deriving DecidableEq, Repr

/-- The exit code after a command line that is not carried out. -/
def UsageError.exitCode : UsageError → Nat
  | displayHelp | displayVersion => 0
  | _ => 2

end TodoLedger
