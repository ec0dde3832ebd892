import TodoLedger.Text.Basic

/-! The lines around a line. A window grows in both directions until it meets a blank line or holds `limit`
lines on that side. -/

namespace TodoLedger

/-- A line with the lines next to it. -/
structure Window where
  /-- The lines before, oldest first. -/
  before : List Text
  trigger : Text
  after : List Text
deriving DecidableEq, Repr

namespace Window

/-- All lines, oldest first. -/
def lines (w : Window) : List Text := w.before ++ w.trigger :: w.after

/-- The place of the trigger among the lines. -/
def triggerIndex (w : Window) : Nat := w.before.length

theorem triggerIndex_lt (w : Window) : w.triggerIndex < w.lines.length := by
  simp only [triggerIndex, lines, List.length_append, List.length_cons]
  omega

/-- The lines at the front that belong to the window of a line before them. -/
def reach (limit : Nat) (lines : List Text) : List Text :=
  (lines.take limit).takeWhile fun line => !Text.allBlank line

/-- The window of a line between the lines before it, nearest first, and the lines after it. -/
def around (limit : Nat) (earlier : List Text) (line : Text) (later : List Text) : Window :=
  ⟨(reach limit earlier).reverse, line, reach limit later⟩

/-- The window of the line with a number, counted from one. -/
def at? (lines : List Text) (number limit : Nat) : Option Window :=
  match number with
  | 0 => none
  | i + 1 =>
    match lines.drop i with
    | [] => none
    | line :: later => some (around limit (lines.take i).reverse line later)

end Window
end TodoLedger
