import TodoLedger.Comment
import TodoLedger.Keyword

/-! The directive grammar: one line in, at most one directive out. A line is a directive if its comment
mentions a keyword; `TITLE | BODY` in the comment gives it a title and a body, `#words` give it labels. -/

namespace TodoLedger

/-- The words of a text that directly follow a `#`. -/
def labelWords : Text → List Text
  | [] => []
  | c :: r =>
    if c = '#' then
      match r.takeWhile fun d => !(Text.isBlank d || d == '#') with
      | [] => labelWords r
      | word => word :: labelWords r
    else labelWords r

/-- The labels of a text: its `#words` that are not keywords, ascending, or nothing if there are none. -/
def labels? (t : Text) : Option (List Text) :=
  match Text.sortedSet ((labelWords t).filter fun word => !Keyword.all.any (·.leads word)) with
  | [] => none
  | labels => some labels

/-- A directive that is not yet located in a file. -/
structure Directive where
  keywords : KeywordSet
  /-- The whole line. -/
  line : Text
  structured : Option Structured
  labels : Option (List Text)
  keywords_ne_empty : keywords.isEmpty = false
deriving DecidableEq, Repr

/-- The directive that a comment holds. Labels come from the body if there is one. -/
def Comment.directive? (k : Comment) : Option Directive :=
  if h : (KeywordSet.mentionedIn k.text).isEmpty then none
  else some {
    keywords := KeywordSet.mentionedIn k.text
    line := k.code ++ k.text
    structured := k.structured?
    labels := labels? (match k.structured? with
      | some s => s.body
      | none => k.content)
    keywords_ne_empty := by simpa using h }

/-- The directive grammar of a language: the openers at which its lines are cut. -/
structure Grammar where
  language : Language
  openers : List Opener
deriving DecidableEq, Repr

namespace Grammar

def ofLanguage (l : Language) : Grammar := ⟨l, l.openers⟩

/-- The directive of a line. -/
def parse? (g : Grammar) (line : Text) : Option Directive :=
  (Comment.split? g.openers line).bind Comment.directive?

end Grammar

/-- The directive of a line in a language. -/
def Language.parse? (l : Language) (line : Text) : Option Directive := (Grammar.ofLanguage l).parse? line

end TodoLedger
