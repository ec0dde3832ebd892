import TodoLedger.Text.Word

/-! The keywords that make a comment a directive, and where a text mentions them. -/

namespace TodoLedger

/-- The two classes of directives: deferred work and known defects. -/
inductive Keyword where
  | todo
  | fixme
deriving DecidableEq, Repr

namespace Keyword

/-- Both classes in the order in which they are listed. -/
def all : List Keyword := [todo, fixme]

/-- The lower case word, as it stands in reports. -/
def word : Keyword → Text
  | todo => "todo".toList
  | fixme => "fixme".toList

/-- The upper case word, as it is shown to people. -/
def display : Keyword → Text
  | todo => "TODO".toList
  | fixme => "FIXME".toList

/-- The keyword that a text spells in any letter case. -/
def parse? (t : Text) : Option Keyword := all.find? fun k => k.word == Text.lowerAscii t

/-- The rest of a text after a word in any letter case; `word` is in lower case. -/
def dropWord? : (word : Text) → Text → Option Text
  | [], t => some t
  | _ :: _, [] => none
  | w :: word, c :: r => if c.toLower = w then dropWord? word r else none

/-- The keyword stands at the front of a text as a whole word. -/
def leads (k : Keyword) (t : Text) : Bool :=
  match dropWord? k.word t with
  | some rest => !Text.startsInWord rest
  | none => false

/-- The keyword stands as a whole word in a text that follows a word character or does not. -/
def mentionedAfter (k : Keyword) (inWord : Bool) : Text → Bool
  | [] => false
  | c :: r => (!inWord && k.leads (c :: r)) || k.mentionedAfter (Text.isWord c) r

/-- The keyword stands as a whole word somewhere in a text. -/
def mentionedIn (k : Keyword) (t : Text) : Bool := k.mentionedAfter false t

end Keyword

/-- A set of keywords. -/
structure KeywordSet where
  todo : Bool
  fixme : Bool
deriving DecidableEq, Repr

namespace KeywordSet

def has (s : KeywordSet) : Keyword → Bool
  | .todo => s.todo
  | .fixme => s.fixme

/-- The members in the order of `Keyword.all`. -/
def toList (s : KeywordSet) : List Keyword := Keyword.all.filter s.has

def ofList (ks : List Keyword) : KeywordSet := ⟨ks.contains .todo, ks.contains .fixme⟩

def isEmpty (s : KeywordSet) : Bool := !s.todo && !s.fixme

/-- The keywords that a text mentions. -/
def mentionedIn (t : Text) : KeywordSet := ⟨Keyword.todo.mentionedIn t, Keyword.fixme.mentionedIn t⟩

/-- The keywords as they are shown to people, with commas between them. -/
def label (s : KeywordSet) : Text := Text.join [',', ' '] (s.toList.map Keyword.display)

end KeywordSet
end TodoLedger
