import TodoLedger.Language
import TodoLedger.Text.Basic

/-! The comment of a line: it begins where the first opener of the language stands, whatever comes before it
is code. -/

namespace TodoLedger

/-- A delimiter that opens a comment, with the one that closes it unless the line does. -/
structure Opener where
  mark : Text
  closer : Option Text
  mark_ne_nil : mark ≠ []
deriving Repr

theorem Opener.mark_closer_inj {a b : Opener} : a.mark = b.mark ∧ a.closer = b.closer ↔ a = b := by
  cases a
  cases b
  simp

instance : DecidableEq Opener := fun _ _ => decidable_of_iff _ Opener.mark_closer_inj

/-- The openers of a language; where two fit, the line marker goes first. -/
def Language.openers (l : Language) : List Opener :=
  ⟨l.lineMarker, none, l.lineMarker_ne_nil⟩ ::
    l.block.toList.map fun b => ⟨b.start, some b.finish, b.start_ne_nil⟩

/-- A line cut where its comment begins. -/
structure Comment where
  code : Text
  /-- The comment with its opener. -/
  text : Text
  opener : Opener
deriving DecidableEq, Repr

/-- A title and a body, written in a comment with a bar between them. -/
structure Structured where
  title : Text
  body : Text
deriving DecidableEq, Repr

namespace Comment

/-- The opener that stands at the front of a text. -/
def opening? (openers : List Opener) (t : Text) : Option Opener :=
  openers.find? fun o => o.mark.isPrefixOf t

/-- Cuts a line at the first place where an opener stands. -/
def split? (openers : List Opener) : Text → Option Comment
  | [] => none
  | c :: r =>
    match opening? openers (c :: r) with
    | some o => some ⟨[], c :: r, o⟩
    | none => (split? openers r).map fun k => { k with code := c :: k.code }

/-- The comment without its delimiters; the closer counts only at the end, blanks aside. -/
def content (k : Comment) : Text :=
  let inner := Text.trimStartOf k.opener.mark (k.text.drop k.opener.mark.length)
  match k.opener.closer with
  | none => inner
  | some closer => (Text.stripEnd? closer (Text.trimEnd inner)).getD inner

/-- The body that `tail`, the text after the bar, stands for. -/
def bodyOf (k : Comment) (tail : Text) : Text :=
  let body := Text.trim tail
  match k.opener.closer with
  | none => body
  | some closer => Text.trimEnd ((Text.stripEnd? closer body).getD body)

/-- Title and body, cut at the first bar; the title must not be empty. -/
def structured? (k : Comment) : Option Structured :=
  match Text.cut? '|' k.text with
  | none => none
  | some (head, tail) =>
    let title := Text.trim (Text.trimStartOf k.opener.mark head)
    if title.isEmpty then none else some ⟨title, k.bodyOf tail⟩

end Comment
end TodoLedger
