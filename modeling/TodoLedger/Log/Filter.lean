import TodoLedger.Log.Event
import TodoLedger.Text.Basic

/-! Which events are logged. A filter is a list of directives, each of which sets the least gravity of the
events of all parts of the program, or of those whose names begin alike. -/

namespace TodoLedger.Log

/-- What is logged of some parts of the program. -/
structure FilterDirective where
  /-- How the names of the parts begin. -/
  start : Text
  /-- The rank of the least grave level that is logged; zero for none. -/
  rank : Nat
deriving DecidableEq, Repr

namespace FilterDirective

/-- The rank of a level by its name in any letter case or its digit; nothing at all is off. -/
def rank? (t : Text) : Option Nat :=
  ([Level.error, .warn, .info, .debug, .trace].findSome? fun level =>
    if Text.lowerAscii level.name == Text.lowerAscii t then some level.rank else none).or <|
  if Text.lowerAscii t == "off".toList then some 0
  else if t.isEmpty then some Level.error.rank
  else (Text.count? t).filter (· ≤ Level.trace.rank)

/-- A directive: a level, or how names begin with a level or without one, which logs all. -/
def ofText? (t : Text) : Option FilterDirective :=
  match Text.cut? '=' t with
  | some (start, level) => (rank? level).map fun rank => ⟨start, rank⟩
  | none =>
    match rank? t with
    | some rank => some ⟨[], rank⟩
    | none =>
      if t.head?.all fun c => c.isAlphanum || ['-', ':', '_', '['].contains c then
        some ⟨t, Level.trace.rank⟩
      else none

end FilterDirective

/-- Which events are logged. -/
abbrev Filter := List FilterDirective

namespace Filter

/-- The filter that directives separated by commas make up; without any only errors are logged. -/
def ofText? (t : Text) : Option Filter := do
  let directives ← ((t.splitOn ',').filter (!·.isEmpty)).mapM fun d =>
    FilterDirective.ofText? (Text.trim d)
  some (if directives.isEmpty then [⟨[], Level.error.rank⟩] else directives)

/-- The directive for a part of the program: the longest start of its name, and of equal ones the last. -/
def directive? (f : Filter) (name : Text) : Option FilterDirective :=
  (f.filter fun d => d.start.isPrefixOf name).foldl (fun best d =>
    match best with
    | some b => if b.start.length ≤ d.start.length then some d else some b
    | none => some d) none

def passes (f : Filter) (e : Event) : Bool :=
  ((f.directive? e.target).map fun d => decide (e.level.rank ≤ d.rank)).getD false

end Filter
end TodoLedger.Log
