import TodoLedger.Gate

/-! The report for people, with colors if the terminal shows them. -/

namespace TodoLedger.Report

/-- The codes of the styles that a terminal is told. -/
inductive Style where
  | name
  | dim
  | strong
  | blue
  | red
  | yellow
  | green
  | alarm
deriving DecidableEq, Repr

def Style.codes : Style → Text
  | name => "1;36".toList
  | dim => "2".toList
  | strong => "1".toList
  | blue => "34".toList
  | red => "31".toList
  | yellow => "33".toList
  | green => "32".toList
  | alarm => "1;31".toList

/-- Ends every style. -/
def reset : Text := "\x1b[0m".toList

/-- A text in which `start` follows every `reset`. -/
def resume (start : Text) : (skip : Nat) → Text → Text
  | _, [] => []
  | skip + 1, c :: r => c :: resume start skip r
  | 0, c :: r =>
    if reset.isPrefixOf (c :: r) then reset ++ start ++ resume start (reset.length - 1) r
    else c :: resume start 0 r

/-- A text in a style; a reset inside does not end it. -/
def paint (color : Bool) (style : Style) (t : Text) : Text :=
  if color then
    let start := "\x1b[".toList ++ style.codes ++ ['m']
    start ++ resume start 0 t ++ reset
  else t

/-- The mark of a decision. -/
def decisionTag (color : Bool) : Decision → Text
  | .filed => paint color .green "[filed]".toList
  | .filingFailed => paint color .red "[filing failed]".toList
  | .skipped => paint color .yellow "[not filed]".toList
  | .duplicateOpen => paint color .dim "[already open]".toList
  | .duplicateClosed => paint color .alarm "[previously closed]".toList

/-- A hit in two lines, or three if it has labels. -/
def hitLines (color : Bool) (h : Hit) (decision : Option Decision) : Text :=
  let indent := List.replicate 12 ' '
  let keywords := paint color (if h.keywords.fixme then .red else .yellow) (Text.padRight 12 h.keywords.label)
  "    ".toList ++ keywords ++ paint color .blue h.file ++
    paint color .dim ([':'] ++ Text.ofNat h.line) ++
    (match decision with
      | some d => [' ', ' '] ++ decisionTag color d
      | none => []) ++ ['\n'] ++
    indent ++ h.title ++ ['\n'] ++
    (match h.labels? with
      | some labels => indent ++ paint color .dim (Text.join [' '] (labels.map ('#' :: ·))) ++ ['\n']
      | none => [])

/-- The list of hits. -/
def hitList (color : Bool) (r : Report) : Text :=
  "  ".toList ++ paint color .strong "Directives".toList ++ " (".toList ++ Text.ofNat r.hits.length ++
    "):\n\n".toList ++
    r.decided.flatMap fun (h, decision) => hitLines color h decision ++ ['\n']

/-- A counter. -/
def countLine (label : String) (count : Nat) : Text :=
  "    ".toList ++ Text.padRight 22 label.toList ++ [' '] ++ Text.ofNat count ++ ['\n']

/-- A counter that is shown only if it counted something. -/
def countLineIfAny (label : String) (count : Nat) : Text :=
  if 0 < count then countLine label count else []

/-- The counters. -/
def summaryLines (color : Bool) (mode : Mode) (s : RunStats) : Text :=
  "  ".toList ++ paint color .strong "Summary:".toList ++ ['\n'] ++
    countLine "Files scanned" s.filesScanned ++ countLine "TODOs" s.todos ++ countLine "FIXMEs" s.fixmes ++
    countLineIfAny "Unsupported encoding" s.encodingFailures ++
    countLineIfAny "Unreadable files" s.readFailures ++
    match mode with
    | .print => []
    | .issue =>
      countLine "Issues filed" s.issuesFiled ++ countLineIfAny "Issues not filed" s.issueFailures ++
        countLine "Duplicates avoided" s.duplicatesAvoided ++
        countLineIfAny "Closed duplicates" s.duplicateClosed

/-- Whether the run passes, and why not. -/
def statusLines (color : Bool) (v : Verdict) : Text :=
  if v.passed then "  ".toList ++ paint color .green "✓ PASS".toList ++ ['\n']
  else
    "  ".toList ++ paint color .red "✗ FAIL".toList ++ ['\n'] ++
      v.failures.flatMap fun f => "    ".toList ++ f.message ++ ['\n']

/-- The report for people; in short form it does not list the hits. -/
def renderPretty (color short : Bool) (r : Report) : Text :=
  "\n  ".toList ++ paint color .name "todoon".toList ++ " v".toList ++ version ++ "\n\n  ".toList ++
    paint color .dim "Scanning: ".toList ++ r.path ++ "\n  ".toList ++
    paint color .dim "Mode:     ".toList ++ r.mode.name ++ "\n\n".toList ++
    (if short || r.hits.isEmpty then [] else hitList color r ++ ['\n']) ++
    summaryLines color r.mode r.stats ++ ['\n'] ++ statusLines color r.verdict ++ ['\n']

end TodoLedger.Report
