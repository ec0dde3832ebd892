import TodoLedger.Hit

/-! The counters of a run. -/

namespace TodoLedger

structure RunStats where
  /-- Every file the scanner tried. -/
  filesScanned : Nat := 0
  encodingFailures : Nat := 0
  readFailures : Nat := 0
  hits : Nat := 0
  todos : Nat := 0
  fixmes : Nat := 0
  issuesFiled : Nat := 0
  issueFailures : Nat := 0
  /-- Hits of which an open issue exists. -/
  duplicatesAvoided : Nat := 0
  /-- Hits of which only closed issues exist. -/
  duplicateClosed : Nat := 0
deriving DecidableEq, Repr

namespace RunStats

/-- Counts a hit; one with both keywords counts in both classes. -/
def recordHit (s : RunStats) (h : Hit) : RunStats :=
  { s with
    hits := s.hits + 1
    todos := s.todos + if h.keywords.todo then 1 else 0
    fixmes := s.fixmes + if h.keywords.fixme then 1 else 0 }

/-- The counters as environment variables for later steps of a workflow. -/
def assignments (s : RunStats) : List (Text × Text) := [
  ("TODOON_STATUS".toList, "finished".toList),
  ("TODOON_PROGRESS".toList, "100.0".toList),
  ("TODOON_FILES_SCANNED".toList, Text.ofNat s.filesScanned),
  ("TODOON_TODOS_FOUND".toList, Text.ofNat s.todos),
  ("TODOON_FIXMES_FOUND".toList, Text.ofNat s.fixmes),
  ("TODOON_ENCODING_ERRORS".toList, Text.ofNat s.encodingFailures),
  ("TODOON_ISSUES_GENERATED".toList, Text.ofNat s.issuesFiled),
  ("TODOON_ISSUE_FAILURES".toList, Text.ofNat s.issueFailures),
  ("TODOON_DUPLICATE_ISSUES_AVOIDED".toList, Text.ofNat s.duplicatesAvoided),
  ("TODOON_DUPLICATE_CLOSED_ISSUES".toList, Text.ofNat s.duplicateClosed)]

/-- The variables as lines of an environment file. -/
def assignmentLines (s : RunStats) : Text :=
  s.assignments.flatMap fun (name, value) => name ++ ['='] ++ value ++ ['\n']

end RunStats
end TodoLedger
