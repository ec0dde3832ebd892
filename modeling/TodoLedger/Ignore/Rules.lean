import TodoLedger.Path
import TodoLedger.ScanError

/-! Ignore rules: which paths below the scan root are left out. -/

namespace TodoLedger

/-- The patterns of the ignore entries, with the name of the ignore file. -/
structure IgnoreRules where
  patterns : List Glob.Pattern
  ignoreFile : Text
  /-- How many entries the patterns come from. -/
  entryCount : Nat

namespace IgnoreRules

/-- Rules without entries. -/
def empty (ignoreFile : Text) : IgnoreRules := ⟨[], ignoreFile, 0⟩

/-- An entry with forward slashes, without blanks around it, leading `./` and slashes at its ends. -/
def normalize (entry : Text) : Text :=
  let e := Path.forwardSlashes (Text.trim entry)
  Text.dropEndWhile (· == '/') ((Text.trimStartOf ['.', '/'] e).dropWhile (· == '/'))

/-- The patterns of an entry: one for the path itself, one for all below it. -/
def patternsOf (entry : Text) : Except ScanError (List Glob.Pattern) :=
  let read (t : Text) : Except ScanError Glob.Pattern :=
    (Glob.Pattern.read t).mapError (ScanError.pattern entry)
  match normalize entry with
  | [] => .ok []
  | e => do
    let itself ← read e
    let below ← read (e ++ "/**".toList)
    .ok [itself, below]

/-- The rules of entries; an entry of which nothing is left counts for nothing. If their patterns make no set, it is for
no entry in particular. -/
def ofEntries (ignoreFile : Text) (entries : List Text) (build : Glob.SetBuilder := Glob.SetBuilder.unlimited) :
    Except ScanError IgnoreRules := do
  let groups ← entries.mapM patternsOf
  (build groups.flatten).mapError fun message => .pattern [] (.unbuilt message)
  .ok ⟨groups.flatten, ignoreFile, (groups.filter fun g => !g.isEmpty).length⟩

/-- Whether a path below the scan root is left out: all in `.git`, the ignore file, and what an entry
matches. -/
def isIgnored (rules : IgnoreRules) (path : Text) : Bool :=
  path.takeWhile (· != '/') == ".git".toList || path == rules.ignoreFile ||
    rules.patterns.any fun p => p.isMatch (Path.forwardSlashes path)

end IgnoreRules
end TodoLedger
