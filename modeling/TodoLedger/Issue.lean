import TodoLedger.Hit
import TodoLedger.Repository

/-! Issues: those that exist, and the request that files a new one for a hit. -/

namespace TodoLedger

inductive IssueState where
  | isOpen
  | closed
deriving DecidableEq, Repr

def IssueState.name : IssueState → Text
  | isOpen => "open".toList
  | closed => "closed".toList

/-- An issue that was filed before. -/
structure ExistingIssue where
  title : Text
  state : IssueState
deriving DecidableEq, Repr

/-- What a new issue is made of. -/
structure Payload where
  title : Text
  body : Text
  assignees : List Text
  labels : List Text
deriving DecidableEq, Repr

namespace Hit

/-- The heading of an issue: the body of the directive unless it is empty, else the hit in one line. -/
def heading (h : Hit) : Text :=
  match h.body? with
  | some body => if body.isEmpty then h.display else body
  | none => h.display

/-- The issue of a hit. Only the heading is prose, in which mentions are broken; code and path stay as they
are. -/
def payload (h : Hit) (r : Repository) : Payload where
  title := h.title
  body :=
    "## ".toList ++ sanitizeMentions h.heading ++ "\n\n".toList ++ h.numberedContext ++
      "\n\nReference: <a href=\"".toList ++ r.fileUrl h.file ++ "\">".toList ++ h.file ++ "</a>".toList
  assignees := r.actor.toList
  labels := h.labels

end Hit
end TodoLedger
