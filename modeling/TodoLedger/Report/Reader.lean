import TodoLedger.Json.Reader
import TodoLedger.Report.Document

/-! Reading the document of a report back. Members may stand in any order, each once at most, and those of other names are
passed over; a list may stand for an object, its items in the order of the members. -/

namespace TodoLedger

namespace Json

variable {α : Type}

def text? : Json → Option Text
  | string t => some t
  | _ => none

def flag? : Json → Option Bool
  | bool b => some b
  | _ => none

/-- A number written with digits only, up to the largest that can be held. -/
def count? (largest : Nat) : Json → Option Nat
  | number written => (Text.digitsFrom? 10 0 written).filter (· ≤ largest)
  | _ => none

def items? (item? : Json → Option α) : Json → Option (List α)
  | array items => items.mapM item?
  | _ => none

/-- A value, or `null` for none. -/
def maybe? (value? : Json → Option α) : Json → Option (Option α)
  | null => some none
  | j => (value? j).map some

/-- The members of an object. The last items of a list may be missing. -/
def members? (names : List String) : Json → Option (List (Text × Json))
  | object members => some members
  | array items => if items.length ≤ names.length then some ((names.map String.toList).zip items) else none
  | _ => none

/-- The value of a member, or what stands for a member that is missing. -/
def member? (members : List (Text × Json)) (name : String) (value? : Json → Option α) (missing : Option α) :
    Option α :=
  match members.filter (·.1 == name.toList) with
  | [] => missing
  | [(_, value)] => value? value
  | _ => none

end Json

namespace Report

open Json

/-- The members of a hit in their order. -/
def HitEntry.names : List String :=
  ["file", "line", "keywords", "title", "body", "labels", "fingerprint", "context", "trigger_index", "decision"]

/-- A hit. Its body, its labels and its decision may be missing. -/
def HitEntry.ofJson? (largest : Nat) (j : Json) : Option HitEntry := do
  let members ← j.members? names
  let file ← member? members "file" text? none
  let line ← member? members "line" (count? largest) none
  let keywords ← member? members "keywords" (items? text?) none
  let title ← member? members "title" text? none
  let body ← member? members "body" (maybe? text?) (some none)
  let labels ← member? members "labels" (items? text?) (some [])
  let fingerprint ← member? members "fingerprint" text? none
  let context ← member? members "context" (items? text?) none
  let triggerIndex ← member? members "trigger_index" (count? largest) none
  let decision ← member? members "decision" (maybe? text?) (some none)
  some ⟨file, line, keywords, title, body, labels, fingerprint, context, triggerIndex, decision⟩

def Summary.names : List String :=
  ["files_scanned", "encoding_failures", "read_failures", "todos", "fixmes", "issues_filed", "issue_failures",
    "duplicates_avoided", "duplicate_closed"]

def Summary.ofJson? (largest : Nat) (j : Json) : Option Summary := do
  let members ← j.members? names
  let count name := member? members name (count? largest) none
  some ⟨← count "files_scanned", ← count "encoding_failures", ← count "read_failures", ← count "todos",
    ← count "fixmes", ← count "issues_filed", ← count "issue_failures", ← count "duplicates_avoided",
    ← count "duplicate_closed"⟩

def Document.names : List String := ["version", "path", "mode", "passed", "failures", "summary", "hits"]

/-- A document. Its failures may be missing. -/
def Document.ofJson? (largest : Nat) (j : Json) : Option Document := do
  let members ← j.members? names
  let version ← member? members "version" text? none
  let path ← member? members "path" text? none
  let mode ← member? members "mode" text? none
  let passed ← member? members "passed" flag? none
  let failures ← member? members "failures" (items? text?) (some [])
  let summary ← member? members "summary" (Summary.ofJson? largest) none
  let hits ← member? members "hits" (items? (HitEntry.ofJson? largest)) none
  some ⟨version, path, mode, passed, failures, summary, hits⟩

/-- The document that a text holds, on a machine whose counts go up to `largest`. -/
def Document.read? (largest : Nat) (t : Text) : Option Document := do
  Document.ofJson? largest (← Json.read? t)

end Report
end TodoLedger
