import TodoLedger.Disk.Basic
import TodoLedger.Text.Utf8

/-! Where a path leads. Its segments are followed one by one from the root or the current directory; a link
on the way turns it to where the link leads, and links may be followed up to a limit. -/

namespace TodoLedger.Disk

/-- Where a path leads: a location in a directory that is there, and what stands at it, if anything does. -/
structure Place where
  location : List Text
  node : Option Node
deriving DecidableEq, Repr

/-- How far the segments of a path can be followed without following a link. -/
inductive Leg where
  | arrived (p : Place)
  /-- A link was met; from a location on there are other segments to follow. -/
  | turned (location : List Text) (segments : List Text)

/-- The largest size of a name in bytes. -/
def maxName : Nat := 255

/-- The largest size of a path in bytes. -/
def maxPath : Nat := 4095

/-- How many links a path may lead over. -/
def maxLinks : Nat := 40

/-- The segments of a path; a slash at its end asks for a directory like a dot does. -/
def segments (p : Text) : List Text :=
  (p.splitOn '/').filter (!·.isEmpty) ++ if p.getLast? == some '/' then [['.']] else []

/-- The location at which a path starts that is given in a directory. -/
def startOf (directory : List Text) (p : Text) : List Text := if Path.isAbsolute p then [] else directory

/-- Follows segments from a directory on. A link at the end is followed if `followLast` says so. -/
def follow (d : Disk) (followLast : Bool) (directory : List Text) : List Text → Except DiskError Leg
  | [] => .ok (.arrived ⟨directory, some .directory⟩)
  | s :: more =>
    if s = ['.'] then follow d followLast directory more
    else if s = ['.', '.'] then follow d followLast directory.dropLast more
    else if maxName < (Text.utf8 s).length then .error .nameTooLong
    else
      let location := directory ++ [s]
      match d.node? location with
      | none => if more.isEmpty then .ok (.arrived ⟨location, none⟩) else .error .notFound
      | some .directory => follow d followLast location more
      | some (.file content) =>
        if more.isEmpty then .ok (.arrived ⟨location, some (.file content)⟩) else .error .notDirectory
      | some (.link target) =>
        if more.isEmpty && !followLast then .ok (.arrived ⟨location, some (.link target)⟩)
        else .ok (.turned (startOf directory target) (segments target ++ more))

/-- Follows segments over at most `links` links. -/
def resolve (d : Disk) (followLast : Bool) :
    (links : Nat) → List Text → List Text → Except DiskError Place
  | links, directory, segments =>
    match d.follow followLast directory segments with
    | .error e => .error e
    | .ok (.arrived p) => .ok p
    | .ok (.turned directory segments) =>
      match links with
      | 0 => .error .tooManyLinks
      | links + 1 => resolve d followLast links directory segments

/-- Refuses a text that is no path. -/
def checkPath (p : Text) : Except DiskError Unit :=
  if p.any (· == '\x00') then .error .zeroCharacter
  else if p.isEmpty then .error .notFound
  else if maxPath < (Text.utf8 p).length then .error .nameTooLong
  else .ok ()

/-- Where a path leads. -/
def place (d : Disk) (p : Text) (followLast : Bool) : Except DiskError Place := do
  checkPath p
  d.resolve followLast maxLinks (startOf d.current p) (segments p)

/-- Where a path leads at which something stands. -/
def existing (d : Disk) (p : Text) : Except DiskError (List Text × Node) := do
  match ← d.place p true with
  | ⟨location, some n⟩ => .ok (location, n)
  | ⟨_, none⟩ => .error .notFound

end TodoLedger.Disk
