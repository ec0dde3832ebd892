import TodoLedger.Config.Validation
import TodoLedger.Disk.Access
import TodoLedger.Yaml.Node

/-! Settings as written in a file. A setting that is not given keeps its default, an unknown one is ignored, and a known
one must not be given twice. The settings of a run are those of the file that is named, or else of the first file of the
scan root with one of the usual names. -/

namespace TodoLedger.Config

open Yaml

/-- The value of a tag of the core schema. -/
def coreTag (name : String) : Text := ("tag:yaml.org,2002:" ++ name).toList

/-- The entries of a mapping; where nothing is written there are none. -/
def entries? (d : Document) (n : Node) : Option (List (Node × Node)) := do
  match ← d.resolve? n with
  | .mapping entries => some entries
  | .scalar [] .plain _ => some []
  | _ => none

/-- The text of a scalar. -/
def text? (d : Document) (n : Node) : Option Text := do
  match ← d.resolve? n with
  | .scalar value _ _ => some value
  | _ => none

/-- The items of a sequence of texts; where nothing is written there are none. -/
def texts? (d : Document) (n : Node) : Option (List Text) := do
  match ← d.resolve? n with
  | .sequence items => items.mapM (text? d)
  | .scalar [] .plain _ => some []
  | _ => none

/-- The text of a scalar that may be more than a text: it is plain, or a literal block with the tag. -/
def typed? (tag : String) (d : Document) (n : Node) : Option Text := do
  match ← d.resolve? n with
  | .scalar value .plain _ => some value
  | .scalar value .literal written => if written == some (coreTag tag) then some value else none
  | _ => none

/-- A count: decimal digits without a leading zero, or digits of another base after its sign. -/
def number? (t : Text) : Option Nat :=
  let t := if t.head? == some '+' then t.drop 1 else t
  match t with
  | '0' :: 'x' :: digits => Text.digits? 16 digits
  | '0' :: 'o' :: digits => Text.digits? 8 digits
  | '0' :: 'b' :: digits => Text.digits? 2 digits
  | '0' :: _ :: _ => none
  | digits => Text.digits? 10 digits

def count? (d : Document) (n : Node) : Option Nat := (typed? "int" d n).bind number?

def flag? (d : Document) (n : Node) : Option Bool := do
  let t ← typed? "bool" d n
  if ["true", "True", "TRUE"].any (·.toList == t) then some true
  else if ["false", "False", "FALSE"].any (·.toList == t) then some false
  else none

/-- The words for no value. -/
def isNull (t : Text) : Bool := ["null", "Null", "NULL", "~"].any (·.toList == t)

/-- A text or no value. Under the tag of no value no text may stand, under another tag every text counts. -/
def optionalText? (d : Document) (n : Node) : Option (Option Text) := do
  match ← d.resolve? n with
  | .scalar value .plain none => some (if value.isEmpty || isNull value then none else some value)
  | .scalar value .plain (some tag) =>
    if tag == coreTag "null" then if isNull value then some none else none
    else some (some value)
  | .scalar value _ _ => some (some value)
  | _ => none

/-- The value of a setting among entries with their keys; the default unless it is given, nothing if it is
given twice or badly. -/
def setting? {α : Type} (entries : List (Text × Node)) (name : String) (read? : Node → Option α)
    (default : α) : Option α :=
  match entries.filter fun (key, _) => key == name.toList with
  | [] => some default
  | [(_, value)] => read? value
  | _ => none

/-- Entries with their keys as texts. -/
def keyed? (d : Document) (n : Node) : Option (List (Text × Node)) := do
  (← entries? d n).mapM fun (key, value) => do return (← text? d key, value)

def tracker? (d : Document) (n : Node) : Option TrackerConfig := do
  let entries ← keyed? d n
  let default : TrackerConfig := {}
  return {
    apiUrl := ← setting? entries "api_url" (text? d) default.apiUrl
    timeout := ← setting? entries "timeout_ms" (count? d) default.timeout
    creator := ← setting? entries "creator" (optionalText? d) default.creator }

def ofNode? (d : Document) (n : Node) : Option Config := do
  let entries ← keyed? d n
  let default : Config := {}
  return {
    contextLimit := ← setting? entries "context_limit" (count? d) default.contextLimit
    maxIssues := ← setting? entries "max_issues" (count? d) default.maxIssues
    failClosedDuplicates :=
      ← setting? entries "fail_closed_duplicates" (flag? d) default.failClosedDuplicates
    ignoreFlag := ← setting? entries "ignore_flag" (text? d) default.ignoreFlag
    ignoreFile := ← setting? entries "ignore_file" (text? d) default.ignoreFile
    excludedPaths := ← setting? entries "excluded_paths" (texts? d) default.excludedPaths
    dryRun := ← setting? entries "dry_run" (flag? d) default.dryRun
    tracker := ← setting? entries "tracker" (tracker? d) default.tracker }

/-- The settings of a file. A file without a document gives none. -/
def ofText? (t : Text) : Option Config := do
  if Text.allBlank t then return {}
  let d ← Yaml.read? t
  match d.root with
  | none => return {}
  | some root => ofNode? d root

/-! ### Files with settings -/

def fileNames : List Text := ["todoon.yaml".toList, ".todoon.yaml".toList]

/-- The file with settings in a root. -/
def find? (d : Disk) (root : Text) : Option Text := (fileNames.map (Path.join root)).find? d.isFile

/-- The settings in a file. -/
def ofFile (d : Disk) (p : Text) : Except ConfigError Config :=
  match d.readText p with
  | .error e => .error (.io p e)
  | .ok t => (ofText? t).elim (.error (.yaml p)) .ok

/-- The settings for a root, the defaults if there is no file. -/
def discover (d : Disk) (root : Text) (named : Option Text) : Except ConfigError Config :=
  match named.or (find? d root) with
  | some p => ofFile d p
  | none => .ok {}

end TodoLedger.Config
