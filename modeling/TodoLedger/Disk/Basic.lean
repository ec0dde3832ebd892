import TodoLedger.Disk.Error
import TodoLedger.Path

/-! A disk: what stands at which location. A location is the list of names from the root on; the root itself
is a directory that is always there. Names are texts, so there is none that is not valid UTF-8; nor are there
devices, pipes or sockets. -/

namespace TodoLedger

/-- What can stand at a location. -/
inductive Disk.Node where
  | file (content : Bytes)
  | directory
  /-- Leads to another path. -/
  | link (target : Text)
deriving DecidableEq, Repr

structure Disk where
  /-- What stands at the locations below the root, each location once. -/
  nodes : List (List Text × Disk.Node)
  /-- The directory at which relative paths start. -/
  current : List Text
deriving DecidableEq, Repr

namespace Disk

/-- A disk with nothing but its root. -/
def empty : Disk := ⟨[], []⟩

/-- What stands at a location. -/
def node? (d : Disk) (location : List Text) : Option Node :=
  if location.isEmpty then some .directory else d.nodes.lookup location

/-- The disk with a node at a location, in place of one that stood there. -/
def put (d : Disk) (location : List Text) (n : Node) : Disk :=
  { d with nodes := d.nodes.filter (·.1 != location) ++ [(location, n)] }

/-- The locations of the directories that lead to a location. -/
def parents (location : List Text) : List (List Text) :=
  (List.range location.length).filterMap fun n => if n = 0 then none else some (location.take n)

/-- The disk with a node at a location, and directories on the way to it where there is nothing. -/
def add (d : Disk) (location : List Text) (n : Node) : Disk :=
  ((parents location).foldl (fun d p => if (d.node? p).isSome then d else d.put p .directory) d).put location n

/-- The name by which a location stands directly in a directory. -/
def nameIn? (directory location : List Text) : Option Text :=
  match directory.isPrefixOf? location with
  | some [name] => some name
  | _ => none

/-- What stands directly in a directory, by name, in the order of the names. -/
def entries (d : Disk) (directory : List Text) : List (Text × Node) :=
  (d.nodes.filterMap fun (location, n) => (nameIn? directory location).map (·, n)).mergeSort
    fun a b => !Text.precedes b.1 a.1

/-- The path of a location. -/
def pathOf (location : List Text) : Text := '/' :: Text.join ['/'] location

end Disk
end TodoLedger
