import TodoLedger.CommandLine.Basic
import TodoLedger.Config.Reader
import TodoLedger.Config.Environment
import TodoLedger.Ignore.Entries
import TodoLedger.Report.Document
import TodoLedger.Report.Pretty
import TodoLedger.Run.Basic
import TodoLedger.Scan.Result
import TodoLedger.Targets
import TodoLedger.Tracker.DryRun
import TodoLedger.Tracker.GitHub

/-! The command that scans: it finds the settings and the files, scans them, files issues if it is asked to,
and reports. -/

namespace TodoLedger.Check

/-- How a report is written. -/
inductive Format where
  | pretty
  | document
deriving DecidableEq, Repr

def Format.ofName? (t : Text) : Option Format :=
  if t == "pretty".toList then some .pretty else if t == "json".toList then some .document else none

/-- The settings with those of the arguments. -/
def override (config : Config) (args : CheckArgs) : Config :=
  { config with
    contextLimit := args.contextLimit.getD config.contextLimit
    maxIssues := args.maxIssues.getD config.maxIssues
    failClosedDuplicates := config.failClosedDuplicates || args.closedDuplicatesFail
    dryRun := config.dryRun || args.dryRun }

/-- The settings of a run: those of a file, then those of the environment, then those of the arguments. -/
def loadConfig (d : Disk) (env : Environment) (root : Text) (args : CheckArgs) : Attempt Config := do
  let config ← Attempt.ofExcept .config (Config.discover d root args.config)
  let config ← config.withEnvironment env
  let config := override config args
  Attempt.ofExcept .invalidConfig config.validate
  return config

/-- The entries of the ignore file in a root. A run needs one unless it is forced. -/
def ignoreEntries (d : Disk) (root : Text) (args : CheckArgs) (config : Config) : Attempt (List Text) := do
  if args.force then
    Log.tell .warn Run.target ("--force: running without ".toList ++ config.ignoreFile) []
    return []
  else
    let path := Path.join root config.ignoreFile
    match ← Attempt.ofExcept .scan (Ignore.load d path) with
    | none => throw (.scan (.missingIgnoreFile path))
    | some entries =>
      if entries.isEmpty then
        Log.tell .warn Run.target (config.ignoreFile ++ " lists nothing; scanning everything".toList) []
      return entries

/-- The files to scan: those that are asked for, or all in the root that are not ignored. -/
def targets (build : Glob.SetBuilder) (d : Disk) (root : Text) (args : CheckArgs) (config : Config) :
    Attempt (List Text) := do
  if args.files.isEmpty then
    let entries ← ignoreEntries d root args config
    let rules ← Attempt.ofExcept .scan
      (IgnoreRules.ofEntries config.ignoreFile (config.excludedPaths ++ entries) build)
    Log.emit .debug Run.target "compiled ignore rules" [("patterns", Text.ofNat rules.entryCount)]
    Targets.collect d root rules
  else Targets.expand d root config.ignoreFile args.files

variable {σ : Type}

/-- What a tracker changes: the other side of the transport, and what a dry run would have filed. -/
abbrev Filing (σ : Type) := σ × List Payload

/-- The tracker of a run that files issues, if there can be one. -/
def tracker? (s : Surroundings σ) (config : Config) : Log.Traced (Option (Tracker (Filing σ))) := do
  let repository := Repository.ofEnvironment s.environment
  if config.dryRun then
    let repository := repository.toOption.getD Repository.placeholder
    return some ((Tracker.dryRun repository []).within Prod.snd fun payloads f => (f.1, payloads))
  else
    match repository with
    | .error variableName =>
      Run.warn "issues cannot be filed"
        [("error", (TrackerError.missingIdentity variableName.toList).message)]
      return none
    | .ok repository =>
      let token := GitHub.token? s.environment
      if token.isNone then
        Run.warn "no GITHUB_TOKEN or GH_TOKEN set; filing issues will likely fail" []
      match GitHub.Client.new repository token config.tracker with
      | .error e =>
        Run.warn "could not create GitHub client" [("error", e.message)]
        return none
      | .ok client =>
        return some ((GitHub.tracker s.transport client).within Prod.fst fun peer f => (peer, f.2))

/-- What came of the hits of a run. -/
structure Filed (σ : Type) where
  decisions : List Decision
  /-- Why not all hits were decided. -/
  stop : Option CapExceeded
  stats : RunStats
  peer : σ

/-- Files the hits of a scan as far as they are new. -/
def fileHits (s : Surroundings σ) (config : Config) (scan : ScanResult) : Log.Traced (Filed σ) := do
  let tracker ← tracker? s config
  let start : Filing σ := (s.peer, [])
  let (inventory, state) ←
    match tracker with
    | some t => t.inventory start
    | none => pure (Inventory.empty, start)
  let r : Reconciler (Filing σ) := ⟨tracker, inventory, config.maxIssues⟩
  let ((decisions, stop), p) ← r.decideUntilCap ⟨[], scan.stats, state⟩ scan.hits
  return ⟨decisions, stop, p.stats, p.state.1⟩

/-- Adds the counters to the environment file. A file that cannot be written is no failure. -/
def exportStats (d : Disk) (env : Environment) (stats : RunStats) : Log.Traced Disk := do
  match env "GITHUB_ENV".toList with
  | none =>
    Run.warn "--github-env given but GITHUB_ENV is not set" []
    return d
  | some path =>
    match d.append path (Text.utf8 stats.assignmentLines) with
    | .ok d => return d
    | .error e =>
      Run.warn "could not write GITHUB_ENV" [("error", e.message)]
      return d

/-- A run that has come to its report. -/
structure Checked (σ : Type) where
  report : Report
  format : Format
  /-- Why not all hits were decided. -/
  stop : Option CapExceeded
  disk : Disk
  peer : σ

/-- The exit code: zero if the run passes. A run that was stopped is an error. -/
def Checked.result (c : Checked σ) : Except RunError Nat :=
  match c.stop with
  | some e => .error (.cap e)
  | none => .ok (if c.report.verdict.passed then 0 else 1)

/-- The run up to its report. -/
def perform (s : Surroundings σ) (args : CheckArgs) : Attempt (Checked σ) := do
  let some format := Format.ofName? args.format | throw (.unknownFormat args.format)
  let root ← Attempt.ofExcept (.inaccessibleRoot args.root) (s.disk.canonical args.root)
  let config ← loadConfig s.disk s.environment root args
  let mode : Mode := if args.issue then .issue else .print
  if mode = .print && config.failClosedDuplicates then
    Run.warn "closed-duplicate checks only apply in issue mode" []
  let files ← targets s.build s.disk root args config
  if files.isEmpty then
    Run.warn "no files to scan" []
  let scan ← (Scanner.new config.contextLimit config.ignoreFlag).run s.disk root files
  let filed ←
    match mode with
    | .issue => fileHits s config scan
    | .print => pure ⟨[], none, scan.stats, s.peer⟩
  let disk ← if args.githubEnv then exportStats s.disk s.environment filed.stats else pure s.disk
  return {
    report := {
      path := root, mode, hits := scan.hits, decisions := filed.decisions, stats := filed.stats
      verdict := Verdict.ofStats filed.stats args.silent config.failClosedDuplicates }
    format, stop := filed.stop, disk, peer := filed.peer }

/-- What is printed at an output level. -/
def print (level : OutputLevel) (color : Bool) (c : Checked σ) : Text :=
  match level, c.format with
  | .nothing, _ => []
  | _, .document => c.report.renderDocument
  | .summary, .pretty => c.report.renderPretty color true
  | .full, .pretty => c.report.renderPretty color false

/-- Runs the command. -/
def run (s : Surroundings σ) (args : CheckArgs) (level : OutputLevel) : Log.Traced (Ended σ) := do
  match ← (perform s args).run with
  | .ok c => return ⟨c.result, print level s.color c, c.disk, c.peer⟩
  | .error e => return ⟨.error e, [], s.disk, s.peer⟩

end TodoLedger.Check
