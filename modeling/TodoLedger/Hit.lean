import TodoLedger.Digest.Sha256
import TodoLedger.Directive
import TodoLedger.Path
import TodoLedger.Text.Number
import TodoLedger.Text.Utf8
import TodoLedger.Window

/-! Hits: directives with their place in a file and the lines around them. -/

namespace TodoLedger

/-- Why a hit cannot be made. -/
inductive InvalidHit where
  | noKeywords
  | triggerOutOfRange (index length : Nat)
  | zeroLine
deriving DecidableEq, Repr

def InvalidHit.message : InvalidHit → Text
  | noKeywords => "a hit needs at least one keyword".toList
  | triggerOutOfRange index length =>
    "trigger index ".toList ++ Text.ofNat index ++ " is outside ".toList ++ Text.ofNat length ++
      " context lines".toList
  | zeroLine => "source lines are 1-based".toList

/-- A directive at a line of a file. -/
structure Hit where
  /-- The path of the file with forward slashes. -/
  file : Text
  /-- The number of the line, counted from one. -/
  line : Nat
  keywords : KeywordSet
  context : List Text
  /-- The place of the directive's line in the context. -/
  trigger : Nat
  title? : Option Text
  body? : Option Text
  labels? : Option (List Text)
  keywords_ne_empty : keywords.isEmpty = false
  line_pos : 0 < line
  trigger_lt : trigger < context.length
deriving Repr

/-- The text by which two issues are taken for the same. -/
def fingerprint (title : Text) : Text := Sha256.hex (Text.utf8 title)

/-- Keeps mentions from notifying anyone. -/
def sanitizeMentions (t : Text) : Text := Text.substitute '@' "@<!-- -->".toList t

namespace Hit

/-- What is known of a hit: its place, the lines around it, and what its directive says. -/
def parts (h : Hit) :
    (Text × Nat × KeywordSet) × (List Text × Nat) × Option Text × Option Text × Option (List Text) :=
  ((h.file, h.line, h.keywords), (h.context, h.trigger), h.title?, h.body?, h.labels?)

theorem parts_eq_iff {a b : Hit} : a.parts = b.parts ↔ a = b := by
  cases a
  cases b
  simp [parts, and_assoc]

instance : DecidableEq Hit := fun _ _ => decidable_of_iff _ parts_eq_iff

/-- A hit without title, body and labels. -/
def new (file : Text) (line : Nat) (keywords : KeywordSet) (context : List Text) (trigger : Nat) :
    Except InvalidHit Hit :=
  if hk : keywords.isEmpty then .error .noKeywords
  else if hl : line = 0 then .error .zeroLine
  else if ht : trigger < context.length then
    .ok {
      file := Path.forwardSlashes file, line, keywords, context, trigger
      title? := none, body? := none, labels? := none
      keywords_ne_empty := by simpa using hk
      line_pos := Nat.pos_of_ne_zero hl
      trigger_lt := ht }
  else .error (.triggerOutOfRange trigger context.length)

/-- The hit of a directive on the line after `earlier` lines, with the window around it. -/
def ofDirective (file : Text) (earlier : Nat) (d : Directive) (w : Window) : Hit where
  file := Path.forwardSlashes file
  line := earlier + 1
  keywords := d.keywords
  context := w.lines
  trigger := w.triggerIndex
  title? := d.structured.map (·.title)
  body? := d.structured.map (·.body)
  labels? := d.labels
  keywords_ne_empty := d.keywords_ne_empty
  line_pos := Nat.succ_pos earlier
  trigger_lt := w.triggerIndex_lt

/-- The line of the directive. -/
def triggeringLine (h : Hit) : Text := h.context.get ⟨h.trigger, h.trigger_lt⟩

/-- The extension of the file. -/
def extension (h : Hit) : Text := Path.extension h.file

/-- The title of a directive that gives none itself. -/
def genericTitle (h : Hit) : Text :=
  h.keywords.label ++ " - ".toList ++ Text.trim h.triggeringLine

/-- The title of the directive or else the generic one. -/
def title (h : Hit) : Text := h.title?.getD h.genericTitle

def fingerprint (h : Hit) : Text := TodoLedger.fingerprint h.title

/-- The labels as a list. -/
def labels (h : Hit) : List Text := h.labels?.getD []

/-- The hit in one line. -/
def display (h : Hit) : Text :=
  Text.padRight 16 (['['] ++ h.keywords.label ++ [']']) ++
    Text.padRight 16 (" - ".toList ++ h.file ++ [':'] ++ Text.ofNat h.line) ++
    " - ".toList ++ h.title?.getD (Text.trim h.triggeringLine)

/-- The number in the file of the first line of the context. -/
def firstLine (h : Hit) : Nat := max (h.line - h.trigger) 1

/-- The line of the context at a place, after its number; the line of the directive is starred. -/
def numberedLine (h : Hit) (width : Nat) (place : Nat) (line : Text) : Text :=
  let star := if place = h.trigger then ['*', ' '] else [' ', ' ']
  Text.padLeft width (star ++ Text.ofNat (h.firstLine + place) ++ [':']) ++ ['\t'] ++ line ++ ['\n']

/-- The context in a fence, with line numbers. -/
def numberedContext (h : Hit) : Text :=
  let width := (Text.ofNat (h.firstLine + h.context.length - 1)).length + 3
  "\x60\x60\x60".toList ++ h.extension ++ ['\n'] ++
    h.context.zipIdx.flatMap (fun (line, place) => h.numberedLine width place line) ++ "\x60\x60\x60".toList

end Hit
end TodoLedger
