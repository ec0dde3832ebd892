import TodoLedger.Hit
import TodoLedger.Text.Basic
import TodoLedger.Text.Lowercase

/-! The hits of a text: one for each line that is a directive and does not carry the ignore flag. -/

namespace TodoLedger

/-- How texts are scanned. -/
structure Scanner where
  /-- How many lines are looked back and ahead for the context. -/
  contextLimit : Nat
  /-- The flag that exempts a line, in lower case; an empty flag exempts none. -/
  flag : Text
deriving DecidableEq, Repr

namespace Scanner

def defaultContextLimit : Nat := 8

def defaultFlag : Text := "# todoon".toList

/-- A scanner with a flag in any letter case. -/
def new (contextLimit : Nat) (flag : Text) : Scanner := ⟨contextLimit, Text.lower flag⟩

/-- A line that carries the flag in any letter case. -/
def isExempt (s : Scanner) (line : Text) : Bool :=
  !s.flag.isEmpty && Text.contains s.flag (Text.lower line)

/-- The directive of a line that is not exempt. -/
def directive? (s : Scanner) (g : Grammar) (line : Text) : Option Directive :=
  if s.isExempt line then none else g.parse? line

/-- The hits of the lines after `earlier`, which are held backwards. -/
def hitsAfter (s : Scanner) (g : Grammar) (file : Text) (earlier : List Text) : List Text → List Hit
  | [] => []
  | line :: later =>
    let hits := hitsAfter s g file (line :: earlier) later
    match s.directive? g line with
    | none => hits
    | some d =>
      Hit.ofDirective file earlier.length d (Window.around s.contextLimit earlier line later) :: hits

/-- The hits of a text in the order of its lines. -/
def hits (s : Scanner) (file extension text : Text) : List Hit :=
  s.hitsAfter (Grammar.ofLanguage (Language.ofExtension extension)) file [] (Text.lines text)

end Scanner
end TodoLedger
