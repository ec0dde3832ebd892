import TodoLedger.Text.Basic

/-! Paths as texts with slashes. Repeated slashes and `.` between them mean nothing, but a path keeps them
until a rule of this module takes them away. -/

namespace TodoLedger.Path

/-- A path that starts at the root. -/
def isAbsolute : Text → Bool
  | '/' :: _ => true
  | _ => false

/-- A segment that names nothing: it is empty or means the directory it stands in. -/
def isVoid (segment : Text) : Bool := segment.isEmpty || segment == ['.']

/-- What a path is made of: whether it starts at the root, whether it starts with a `.` of its own, and the
segments after that. -/
structure Parts where
  rooted : Bool
  here : Bool
  segments : List Text
deriving DecidableEq, Repr

def parts (p : Text) : Parts :=
  match p.splitOn '/' with
  | [] => ⟨false, false, []⟩
  | first :: more =>
    if first.isEmpty && !more.isEmpty then ⟨true, false, more⟩
    else if first == ['.'] then ⟨false, true, more⟩
    else ⟨false, false, first :: more⟩

/-- The segments of a path that name something. -/
def names (p : Text) : List Text := (parts p).segments.filter fun s => !isVoid s

/-- A path below a base: an absolute one stands on its own, another follows after a slash. -/
def join (base p : Text) : Text :=
  if isAbsolute p then p
  else if base.isEmpty then p
  else if base.getLast? == some '/' then base ++ p
  else base ++ ['/'] ++ p

/-- The segments after those that spell `names`. -/
def segmentsAfter? : (names : List Text) → List Text → Option (List Text)
  | [], segments => some segments
  | name :: names, segments =>
    match segments.dropWhile isVoid with
    | [] => none
    | s :: rest => if s = name then segmentsAfter? names rest else none

/-- The segments without the void ones at both ends. -/
def trimSegments (segments : List Text) : List Text :=
  ((segments.dropWhile isVoid).reverse.dropWhile isVoid).reverse

/-- The part of a path below a base, if it lies there. -/
def below? (base p : Text) : Option Text :=
  let b := parts base
  let q := parts p
  if b.rooted = q.rooted && b.here = q.here then
    (segmentsAfter? (names base) q.segments).map fun rest => Text.join ['/'] (trimSegments rest)
  else none

/-- The last name of a path; `..` is none. -/
def fileName? (p : Text) : Option Text :=
  match (names p).getLast? with
  | some name => if name = ['.', '.'] then none else some name
  | none => none

/-- The text after the last dot of the file name; a dot at its front does not count. -/
def extension (p : Text) : Text :=
  match fileName? p with
  | none => []
  | some name =>
    match (name.reverse.dropWhile (· != '.')).drop 1 with
    | [] => []
    | _ => (name.reverse.takeWhile (· != '.')).reverse

/-- A path with slashes in place of backslashes. -/
def forwardSlashes (p : Text) : Text := Text.substitute '\\' ['/'] p

end TodoLedger.Path
