import TodoLedger.Disk.Place

/-! Reading and writing files by their paths. -/

namespace TodoLedger.Disk

/-- The content of a file. -/
def read (d : Disk) (p : Text) : Except DiskError Bytes := do
  match ← d.existing p with
  | (_, .file content) => .ok content
  | (_, .directory) => .error .isDirectory
  | (_, .link _) => .error .tooManyLinks

/-- The content of a file of text. -/
def readText (d : Disk) (p : Text) : Except DiskError Text := do
  let content ← d.read p
  (Text.ofUtf8? content).elim (.error .notUtf8) .ok

def isFile (d : Disk) (p : Text) : Bool := (d.read p).toBool

def isDirectory (d : Disk) (p : Text) : Bool :=
  match d.existing p with
  | .ok (_, .directory) => true
  | _ => false

/-- The path without links, dots and repeated slashes that leads to the same place. -/
def canonical (d : Disk) (p : Text) : Except DiskError Text := do
  let (location, _) ← d.existing p
  .ok (pathOf location)

/-- Where a file is to be opened that may have to be made. A name with a slash after it is no name of a
file. -/
def placeForFile (d : Disk) (p : Text) (followLast : Bool) : Except DiskError Place := do
  checkPath p
  match (segments p).reverse with
  | dot :: name :: above =>
    if p.getLast? == some '/' && name != ['.'] && name != ['.', '.'] then
      let _ ← d.resolve true maxLinks (startOf d.current p) (above.reverse ++ [dot])
      .error .isDirectory
    else d.place p followLast
  | _ => d.place p followLast

/-- Adds to the end of a file, which is made if it is not there. -/
def append (d : Disk) (p : Text) (content : Bytes) : Except DiskError Disk := do
  match ← d.placeForFile p true with
  | ⟨location, some (.file before)⟩ => .ok (d.put location (.file (before ++ content)))
  | ⟨location, none⟩ => .ok (d.put location (.file content))
  | ⟨_, some .directory⟩ => .error .isDirectory
  | ⟨_, some (.link _)⟩ => .error .tooManyLinks

/-- Makes a file where there is nothing yet. -/
def create (d : Disk) (p : Text) (content : Bytes) : Except DiskError Disk := do
  match ← d.placeForFile p false with
  | ⟨location, none⟩ => .ok (d.put location (.file content))
  | ⟨_, some _⟩ => .error .exists

/-- Gives a file a content, where need be with the directories that lead to it. -/
def write (d : Disk) (p : Text) (content : Bytes) : Disk :=
  match d.place p true with
  | .ok ⟨location, some .directory⟩ => d.add location .directory
  | .ok ⟨location, _⟩ => d.put location (.file content)
  | .error _ => d.add (startOf d.current p ++ segments p) (.file content)

end TodoLedger.Disk
