import TodoLedger.Disk.Access
import TodoLedger.ScanError
import TodoLedger.Text.Encoding

/-! The ignore file, as text and on the disk: one entry a line; blank lines and lines that begin with `#` hold none. -/

namespace TodoLedger.Ignore

/-- The entry that a line holds. -/
def entry? (line : Text) : Option Text :=
  let line := Text.dropEndWhile (· == '\r') line
  if Text.allBlank line || line.head? == some '#' then none else some (Text.trim line)

/-- The entries of an ignore file. -/
def parseEntries (t : Text) : List Text := (Text.lines t).filterMap entry?

/-- The lines of the entries after one that began with `previous`. -/
def renderAfter (previous : Option Char) : List Text → Text
  | [] => []
  | e :: more =>
    match Text.trim e with
    | [] => renderAfter previous more
    | c :: r =>
      (if previous = some c then [] else ['\n']) ++ (c :: r) ++ ['\n'] ++ renderAfter (some c) more

/-- The lines for entries, with an empty line before each run of entries that begin alike. Blank entries are
left out. -/
def renderEntries (entries : List Text) : Text := renderAfter none entries

/-! ### The file on the disk -/

/-- The entries of an ignore file; nothing if there is no file. -/
def load (d : Disk) (p : Text) : Except ScanError (Option (List Text)) :=
  match d.read p with
  | .error .notFound => .ok none
  | .error e => .error (.io p e)
  | .ok content =>
    match TextEncoding.decode? content with
    | none => .error (.unsupportedEncoding p)
    | some (t, _) => .ok (some (parseEntries t))

/-- Writes entries to an ignore file: at its end if it is updated, else to a file that must not be there. -/
def save (d : Disk) (p : Text) (entries : List Text) (update : Bool) : Except ScanError Disk :=
  let content := Text.utf8 (renderEntries entries)
  match if update then d.append p content else d.create p content with
  | .ok d => .ok d
  | .error .exists => .error (.ignoreFileExists p)
  | .error e => .error (.io p e)

end TodoLedger.Ignore
