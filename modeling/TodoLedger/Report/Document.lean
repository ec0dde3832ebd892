import TodoLedger.Gate
import TodoLedger.Json.Basic

/-! The report as a document for programs. Members that would be empty are left out. -/

namespace TodoLedger.Report

/-- A hit of the document. -/
structure HitEntry where
  file : Text
  line : Nat
  keywords : List Text
  title : Text
  body : Option Text
  labels : List Text
  fingerprint : Text
  context : List Text
  triggerIndex : Nat
  decision : Option Text
deriving DecidableEq, Repr

/-- The counters of the document. -/
structure Summary where
  filesScanned : Nat
  encodingFailures : Nat
  readFailures : Nat
  todos : Nat
  fixmes : Nat
  issuesFiled : Nat
  issueFailures : Nat
  duplicatesAvoided : Nat
  duplicateClosed : Nat
deriving DecidableEq, Repr

structure Document where
  version : Text
  path : Text
  mode : Text
  passed : Bool
  failures : List Text
  summary : Summary
  hits : List HitEntry
deriving DecidableEq, Repr

def HitEntry.ofHit (h : Hit) (decision : Option Decision) : HitEntry where
  file := h.file
  line := h.line
  keywords := h.keywords.toList.map Keyword.word
  title := h.title
  body := h.body?
  labels := h.labels
  fingerprint := h.fingerprint
  context := h.context
  triggerIndex := h.trigger
  decision := decision.map Decision.name

def Summary.ofStats (s : RunStats) : Summary where
  filesScanned := s.filesScanned
  encodingFailures := s.encodingFailures
  readFailures := s.readFailures
  todos := s.todos
  fixmes := s.fixmes
  issuesFiled := s.issuesFiled
  issueFailures := s.issueFailures
  duplicatesAvoided := s.duplicatesAvoided
  duplicateClosed := s.duplicateClosed

/-- The document of a report. -/
def document (r : Report) : Document where
  version := version
  path := r.path
  mode := r.mode.name
  passed := r.verdict.passed
  failures := r.verdict.failures.map GateFailure.message
  summary := Summary.ofStats r.stats
  hits := r.decided.map fun (h, decision) => HitEntry.ofHit h decision

/-- A member that is left out if there is nothing to tell. -/
def optional (name : String) (value : Option Json) : List (Text × Json) :=
  value.toList.map fun v => (name.toList, v)

/-- A list of texts, or nothing if it is empty. -/
def nonEmpty? (ts : List Text) : Option Json := if ts.isEmpty then none else some (Json.ofTexts ts)

def HitEntry.toJson (e : HitEntry) : Json :=
  .object ([("file".toList, .string e.file), ("line".toList, Json.ofNat e.line),
    ("keywords".toList, Json.ofTexts e.keywords), ("title".toList, .string e.title)] ++
    optional "body" (e.body.map Json.string) ++ optional "labels" (nonEmpty? e.labels) ++
    [("fingerprint".toList, .string e.fingerprint), ("context".toList, Json.ofTexts e.context),
      ("trigger_index".toList, Json.ofNat e.triggerIndex)] ++
    optional "decision" (e.decision.map Json.string))

def Summary.toJson (s : Summary) : Json :=
  .object [("files_scanned".toList, Json.ofNat s.filesScanned),
    ("encoding_failures".toList, Json.ofNat s.encodingFailures),
    ("read_failures".toList, Json.ofNat s.readFailures), ("todos".toList, Json.ofNat s.todos),
    ("fixmes".toList, Json.ofNat s.fixmes), ("issues_filed".toList, Json.ofNat s.issuesFiled),
    ("issue_failures".toList, Json.ofNat s.issueFailures),
    ("duplicates_avoided".toList, Json.ofNat s.duplicatesAvoided),
    ("duplicate_closed".toList, Json.ofNat s.duplicateClosed)]

def Document.toJson (d : Document) : Json :=
  .object ([("version".toList, .string d.version), ("path".toList, .string d.path),
    ("mode".toList, .string d.mode), ("passed".toList, .bool d.passed)] ++
    optional "failures" (nonEmpty? d.failures) ++
    [("summary".toList, d.summary.toJson), ("hits".toList, .array (d.hits.map HitEntry.toJson))])

/-- The document as text. -/
def renderDocument (r : Report) : Text := r.document.toJson.pretty ++ ['\n']

end TodoLedger.Report
