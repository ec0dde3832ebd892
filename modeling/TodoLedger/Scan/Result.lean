import TodoLedger.Disk.Access
import TodoLedger.Log.Event
import TodoLedger.RunStats
import TodoLedger.Scan
import TodoLedger.ScanError
import TodoLedger.Text.Encoding

/-! Scanning files. A file that cannot be read or decoded is counted and skipped. -/

namespace TodoLedger

/-- What the scan of some files comes to. -/
structure ScanResult where
  hits : List Hit
  stats : RunStats

/-- A file whose text was scanned. -/
structure ScannedFile where
  /-- The path under which its hits are reported. -/
  file : Text
  encoding : TextEncoding
  hits : List Hit

namespace Scanner

/-- The part of the program that scans files. -/
def target : String := "todoon::scan::runner"

/-- The path under which the hits of a file are reported: below the base if it lies there, with forward
slashes. -/
def reportedPath (base path : Text) : Text := Path.forwardSlashes ((Path.below? base path).getD path)

/-- Scans a file. -/
def scanFile (s : Scanner) (d : Disk) (base path : Text) : Except ScanError ScannedFile :=
  match d.read path with
  | .error e => .error (.io path e)
  | .ok content =>
    match TextEncoding.decode? content with
    | none => .error (.unsupportedEncoding path)
    | some (t, encoding) =>
      let file := reportedPath base path
      .ok ⟨file, encoding, s.hits file (Path.extension path) t⟩

/-- The event for a file that was scanned. -/
def noteScanned (f : ScannedFile) : Log.Traced Unit :=
  Log.emit .debug target "scanned"
    [("file", f.file), ("encoding", f.encoding.name), ("hits", Text.ofNat f.hits.length)]

/-- The event for a file that was skipped. -/
def noteSkipped : ScanError → Log.Traced Unit
  | .unsupportedEncoding path =>
    Log.emit .debug target "skipping file in unsupported encoding" [("file", path)]
  | e => Log.emit .warn target "skipping file" [("error", e.message)]

/-- Counts a file with its hits, or as the failure it is. -/
def recordFile (stats : RunStats) : Except ScanError ScannedFile → RunStats
  | .ok f => f.hits.foldl RunStats.recordHit stats
  | .error (.unsupportedEncoding _) => { stats with encodingFailures := stats.encodingFailures + 1 }
  | .error _ => { stats with readFailures := stats.readFailures + 1 }

/-- The hits of a file, none if it was skipped. -/
def hitsOf : Except ScanError ScannedFile → List Hit
  | .ok f => f.hits
  | .error _ => []

/-- Whether a hit may stand before another: hits are sorted by file and line. -/
def isBefore (a b : Hit) : Bool := Text.precedes a.file b.file || (a.file == b.file && a.line ≤ b.line)

/-- Scans files. -/
def run (s : Scanner) (d : Disk) (base : Text) (files : List Text) : Log.Traced ScanResult := do
  let outcomes := files.map (s.scanFile d base)
  outcomes.forM fun outcome =>
    match outcome with
    | .ok f => noteScanned f
    | .error _ => pure ()
  outcomes.forM fun outcome =>
    match outcome with
    | .ok _ => pure ()
    | .error e => noteSkipped e
  pure ⟨(outcomes.flatMap hitsOf).mergeSort isBefore,
    outcomes.foldl recordFile { filesScanned := files.length }⟩

end Scanner
end TodoLedger
