import TodoLedger.Disk.Access
import TodoLedger.Ignore.Rules

/-! What is found below a root: its files, one directory after the other, each in the order of the names.
Links are followed; one that leads back to a directory it stands in is a fault. -/

namespace TodoLedger

/-- Why something below a root cannot be visited. -/
inductive SurveyFault where
  | io (path : Text) (cause : DiskError)
  /-- The path leads to the directory of another path, in which it stands. -/
  | loop (path ancestor : Text)
deriving DecidableEq, Repr

def SurveyFault.message : SurveyFault → Text
  | io path cause => "IO error for operation on ".toList ++ path ++ ": ".toList ++ cause.message
  | loop path ancestor =>
    "File system loop found: ".toList ++ path ++ " points to an ancestor ".toList ++ ancestor

/-- What is found in a directory, name by name. -/
inductive Forest where
  | nil
  | file (name : Text) (more : Forest)
  | fault (f : SurveyFault) (more : Forest)
  | directory (name : Text) (inside more : Forest)
deriving DecidableEq, Repr

namespace Forest

/-- The paths of the files in a directory that the rules do not leave out. `path` leads to the directory, and
`below` leads to it from the root; nothing in a directory left out counts. -/
def files (rules : IgnoreRules) (path below : Text) : Forest → List Text
  | nil => []
  | file name more =>
    let rest := files rules path below more
    if rules.isIgnored (Path.join below name) then rest else Path.join path name :: rest
  | fault _ more => files rules path below more
  | directory name inside more =>
    let rest := files rules path below more
    if rules.isIgnored (Path.join below name) then rest
    else files rules (Path.join path name) (Path.join below name) inside ++ rest

/-- The faults in a directory. They are found also where the rules leave out a path, but not in a directory
left out. -/
def faults (rules : IgnoreRules) (below : Text) : Forest → List SurveyFault
  | nil => []
  | file _ more => faults rules below more
  | fault f more => f :: faults rules below more
  | directory name inside more =>
    let rest := faults rules below more
    if rules.isIgnored (Path.join below name) then rest
    else faults rules (Path.join below name) inside ++ rest

end Forest

/-- What is found at a root. -/
inductive Survey where
  | fault (f : SurveyFault)
  | file
  | directory (inside : Forest)
deriving DecidableEq, Repr

namespace Survey

/-- The paths of the files at a root and below it. The root itself is never left out. -/
def files (rules : IgnoreRules) (root : Text) : Survey → List Text
  | fault _ => []
  | file => [root]
  | directory inside => inside.files rules root []

def faults (rules : IgnoreRules) : Survey → List SurveyFault
  | fault f => [f]
  | file => []
  | directory inside => inside.faults rules []

end Survey

namespace Disk

/-- The directories that are being visited: their locations and the paths that led there, the last first. -/
abbrev Visited := List (List Text × Text)

/-- What a visit comes to at a path. -/
inductive Sight where
  | fault (f : SurveyFault)
  | file
  | directory (location : List Text)

/-- What stands at a path to which a link may lead. -/
def sight (d : Disk) (path : Text) : Sight :=
  match d.existing path with
  | .error e => .fault (.io path e)
  | .ok (location, .directory) => .directory location
  | .ok _ => .file

/-- What stands at a path that is an entry of the last directory visited. -/
def sightIn (d : Disk) (visited : Visited) (path : Text) : Node → Sight
  | .file _ => .file
  | .directory => d.sight path
  | .link _ =>
    match d.sight path with
    | .directory location =>
      match visited.lookup location with
      | some ancestor => .fault (.loop path ancestor)
      | none => .directory location
    | other => other

/-- What is found in the last directory visited, at most `levels` directories deep. -/
def forest (d : Disk) : (levels : Nat) → Visited → (path : Text) → (location : List Text) → Forest
  | 0, _, _, _ => .nil
  | levels + 1, visited, path, location =>
    let visited := (location, path) :: visited
    (d.entries location).foldr (fun (name, node) more =>
      let inner := Path.join path name
      match d.sightIn visited inner node with
      | .fault f => .fault f more
      | .file => .file name more
      | .directory location => .directory name (d.forest levels visited inner location) more) .nil

/-- How deep a visit can go: between two links it only goes down, and each link leads to a directory that is
not being visited. -/
def maxLevels (d : Disk) : Nat := (d.nodes.length + 1) * (d.nodes.length + 2)

/-- What is found at a root and below it. -/
def survey (d : Disk) (root : Text) : Survey :=
  match d.sight root with
  | .fault f => .fault f
  | .file => .file
  | .directory location => .directory (d.forest d.maxLevels [] root location)

end Disk
end TodoLedger
