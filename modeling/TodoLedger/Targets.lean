import TodoLedger.Disk.Survey
import TodoLedger.Log.Event

/-! Which files a run scans. -/

namespace TodoLedger.Targets

/-- The part of the program that finds files. -/
def target : String := "todoon::scan::files"

/-- The files at a root and below it that the rules do not leave out. What cannot be visited is skipped with a
warning. -/
def collect (d : Disk) (root : Text) (rules : IgnoreRules) : Log.Traced (List Text) := do
  let survey := d.survey root
  let files := survey.files rules root
  (survey.faults rules).forM fun f =>
    Log.emit .warn target "skipping unreadable entry" [("error", f.message)]
  Log.emit .debug target "collected scan targets" [("root", root), ("count", Text.ofNat files.length)]
  pure files

/-- The files that are asked for in a root: a directory stands for the files in it, anything else for
itself. -/
def expand (d : Disk) (root : Text) (ignoreFile : Text) : List Text → Log.Traced (List Text)
  | [] => pure []
  | t :: more => do
    let path := Path.join root t
    let here ← if d.isDirectory path then collect d path (IgnoreRules.empty ignoreFile) else pure [path]
    return here ++ (← expand d root ignoreFile more)

end TodoLedger.Targets
