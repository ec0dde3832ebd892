import TodoLedger.Glob.Token

/-! Glob patterns: reading them from text, and the paths that they match. A pattern is read character by
character; a star waits for the next character, which may make it a double star. -/

namespace TodoLedger.Glob

/-- What is wrong with the text of a pattern. -/
inductive Fault where
  | unclosedClass
  | invalidRange (first last : Char)
  | unopenedGroup
  | unclosedGroup
  | danglingEscape
deriving DecidableEq, Repr

def Fault.message : Fault → Text
  | unclosedClass => "unclosed character class; missing ']'".toList
  | invalidRange first last =>
    "invalid range; '".toList ++ [first] ++ "' > '".toList ++ [last, '\'']
  | unopenedGroup =>
    "unopened alternate group; missing '\x7b' (maybe escape '\x7d' with '[\x7d]'?)".toList
  | unclosedGroup =>
    "unclosed alternate group; missing '\x7d' (maybe escape '\x7b' with '[\x7b]'?)".toList
  | danglingEscape => "dangling '\\'".toList

/-- Why patterns cannot be used. -/
inductive PatternError where
  /-- A pattern that cannot be read. -/
  | unread (pattern : Text) (fault : Fault)
  /-- Patterns of which each can be read, but that make no set. -/
  | unbuilt (message : Text)
deriving DecidableEq, Repr

def PatternError.message : PatternError → Text
  | unread pattern fault => "error parsing glob '".toList ++ pattern ++ "': ".toList ++ fault.message
  | unbuilt message => message

/-- What the next character is read as. -/
inductive Reading where
  | plain
  /-- The character after a backslash. -/
  | escaped
  /-- After a star, which followed `before`. -/
  | star (before : Option Char)
  /-- After two stars, the first of which followed `before`. -/
  | stars (before : Option Char)
  /-- After the bracket that opens a class. -/
  | classStart
  /-- In a class, the ranges of which are held backwards. -/
  | inClass (negated : Bool) (ranges : List (Char × Char)) (first openRange : Bool)

/-- A group that is not closed yet: the parts before it and its finished branches, both backwards. -/
structure OpenGroup where
  before : List Token
  branches : List (List Token)

/-- A pattern as far as it has been read. -/
structure Draft where
  reading : Reading
  /-- The last character that was read. -/
  last : Option Char
  /-- The parts of the innermost branch, backwards. -/
  parts : List Token
  /-- The groups around that branch, innermost first. -/
  groups : List OpenGroup

namespace Draft

def start : Draft := ⟨.plain, none, [], []⟩

def push (d : Draft) (t : Token) : Draft := { d with parts := t :: d.parts }

/-- A branch that matches the empty text alone. -/
def isSilent (branch : List Token) : Bool :=
  branch.all fun
    | .alternatives [] => true
    | _ => false

/-- Closes the innermost group; silent branches do not count. -/
def closeGroup (d : Draft) : Except Fault Draft :=
  match d.groups with
  | [] => .error .unopenedGroup
  | g :: groups =>
    let branches := (d.parts.reverse :: g.branches).reverse.filter fun branch => !isSilent branch
    .ok { d with parts := .alternatives branches :: g.before, groups }

/-- Begins the next branch of the innermost group. -/
def nextBranch (d : Draft) : Draft :=
  match d.groups with
  | [] => d.push (.literal ',')
  | g :: groups => { d with parts := [], groups := ⟨g.before, d.parts.reverse :: g.branches⟩ :: groups }

/-- Reads a character outside classes and escapes. -/
def feedPlain (d : Draft) (c : Char) : Except Fault Draft :=
  let here := { d with reading := .plain, last := some c }
  if c = '?' then .ok (here.push .anyByte)
  else if c = '*' then .ok { here with reading := .star d.last }
  else if c = '[' then .ok { here with reading := .classStart }
  else if c = '\x7b' then .ok { here with parts := [], groups := ⟨d.parts, []⟩ :: d.groups }
  else if c = '\x7d' then here.closeGroup
  else if c = ',' then .ok here.nextBranch
  else if c = '\\' then .ok { here with reading := .escaped }
  else .ok (here.push (.literal c))

/-- Two stars that are no component of their own. -/
def pushTwoStars (d : Draft) : Draft := (d.push .anyRun).push .anyRun

/-- Replaces the last part by a double star, unless it is one already. -/
def pushDoubleStar (d : Draft) (t : Token) : Draft :=
  match d.parts with
  | .leadingDirs :: _ => d
  | .everythingBelow :: _ => d
  | parts => { d with parts := t :: parts.drop 1 }

/-- Decides what two stars mean before `next`, and whether they take it with them. -/
def settleStars (d : Draft) (before next : Option Char) : Draft × Bool :=
  let d := { d with reading := .plain }
  let inGroup := !d.groups.isEmpty
  if d.parts.isEmpty then
    if next == none || next == some '/' then (d.push .leadingDirs, true) else (d.pushTwoStars, false)
  else if before != some '/' && !(inGroup && (before == some ',' || before == some '\x7b')) then
    (d.pushTwoStars, false)
  else if next == none then (d.pushDoubleStar .everythingBelow, true)
  else if inGroup && (next == some ',' || next == some '\x7d') then
    (d.pushDoubleStar .everythingBelow, false)
  else if next == some '/' then (d.pushDoubleStar .innerDirs, true)
  else (d.pushTwoStars, false)

/-- Reads a character in a class. A dash joins its neighbours unless it stands at an end. -/
def feedClass (d : Draft) (negated : Bool) (ranges : List (Char × Char)) (first openRange : Bool) (c : Char) :
    Except Fault Draft :=
  let d := { d with last := some c }
  let go (ranges : List (Char × Char)) (openRange : Bool) : Draft :=
    { d with reading := .inClass negated ranges false openRange }
  let extend : Except Fault Draft :=
    match ranges with
    | [] => .ok (go [(c, c)] false)
    | (low, _) :: more => if c < low then .error (.invalidRange low c) else .ok (go ((low, c) :: more) false)
  if c = ']' && !first then
    let ranges := if openRange then ('-', '-') :: ranges else ranges
    .ok ({ d with reading := .plain }.push (.byteClass negated ranges.reverse))
  else if c = '-' && !first && !openRange then .ok (go ranges true)
  else if openRange then extend
  else .ok (go ((c, c) :: ranges) false)

/-- Reads one character of a pattern. -/
def feed (d : Draft) (c : Char) : Except Fault Draft :=
  match d.reading with
  | .plain => d.feedPlain c
  | .escaped => .ok ({ d with reading := .plain, last := some c }.push (.literal c))
  | .star before =>
    if c = '*' then .ok { d with reading := .stars before, last := some c }
    else feedPlain (d.push .anyRun) c
  | .stars before =>
    match d.settleStars before (some c) with
    | (d, true) => .ok { d with last := some c }
    | (d, false) => d.feedPlain c
  | .classStart =>
    if c = '!' || c = '^' then .ok { d with reading := .inClass true [] true false, last := some c }
    else d.feedClass false [] true false c
  | .inClass negated ranges first openRange => d.feedClass negated ranges first openRange c

/-- The parts of a pattern that has been read to its end. -/
def finish (d : Draft) : Except Fault (List Token) := do
  let d ← match d.reading with
    | .plain => .ok d
    | .escaped => .error .danglingEscape
    | .star _ => .ok (d.push .anyRun)
    | .stars before => .ok (d.settleStars before none).1
    | .classStart | .inClass .. => .error .unclosedClass
  if d.groups.isEmpty then .ok d.parts.reverse else .error .unclosedGroup

end Draft

/-- A pattern with its text. -/
structure Pattern where
  text : Text
  tokens : List Token

namespace Pattern

/-- The parts that the text of a pattern spells. -/
def readTokens (t : Text) : Except Fault (List Token) := do
  let d ← t.foldlM Draft.feed Draft.start
  d.finish

/-- Reads a pattern. -/
def read (t : Text) : Except PatternError Pattern :=
  match readTokens t with
  | .ok tokens => .ok ⟨t, tokens⟩
  | .error fault => .error (.unread t fault)

/-- Whether a pattern matches a whole path. -/
def isMatch (p : Pattern) (path : Text) : Bool :=
  match p.tokens with
  | [.leadingDirs] => true
  | tokens => (sequenceRests tokens (Text.utf8 path)).any (·.isEmpty)

end Pattern

/-- Makes a set of patterns, which matches what one of them matches, or says why it cannot: patterns that can be read may
still be nested too deep, or be too large together. -/
abbrev SetBuilder := List Pattern → Except Text Unit

/-- The builder for which no patterns are too much. -/
def SetBuilder.unlimited : SetBuilder := fun _ => .ok ()

end TodoLedger.Glob
