import TodoLedger.Yaml.Scalar
import TodoLedger.Yaml.Token

/-! The tokens of a YAML text. A key of a block mapping is known only by the colon after it, so the tokens
that open a key and its mapping are noted beside the others and put before them at the end. -/

namespace TodoLedger.Yaml

/-- A token that may turn out to be the start of a key. -/
structure PendingKey where
  /-- The number of the token. -/
  place : Nat
  /-- A key has to follow: the token stands at the indentation of its block. -/
  required : Bool
  index : Nat
  line : Nat
  column : Nat

/-- A text as far as it is cut into tokens. -/
structure Lexer where
  cursor : Cursor
  /-- The column of the innermost block, or -1 outside all blocks. -/
  indent : Int := -1
  /-- The columns of the blocks around it. -/
  outer : List Int := []
  /-- Whether a key may begin here. -/
  keyAllowed : Bool := true
  /-- The possible key of the innermost flow collection or of the block. -/
  pending : Option PendingKey := none
  /-- The possible keys of the collections around it, up to the block. -/
  outerPending : List (Option PendingKey) := []
  /-- The tokens so far, backwards. -/
  tokens : List Token := []
  count : Nat := 0
  /-- The tokens to be put before the token with a number. -/
  openings : List (Nat × List Token) := []

namespace Lexer

def inFlow (l : Lexer) : Bool := !l.outerPending.isEmpty

def push (l : Lexer) (t : Token) : Lexer := { l with tokens := t :: l.tokens, count := l.count + 1 }

/-- A block token at this place, after which the text goes on `n` characters later. -/
def pushSkip (l : Lexer) (t : Token) (n : Nat) : Lexer := { l.push t with cursor := l.cursor.skip n }

/-- Gives up the possible key; fails if a key has to be there. -/
def dropPending? (l : Lexer) : Option Lexer :=
  if l.pending.any (·.required) then none else some { l with pending := none }

/-- Notes that the next token may start a key. -/
def notePending? (l : Lexer) : Option Lexer := do
  if !l.keyAllowed then return l
  let l ← l.dropPending?
  let c := l.cursor
  let required := !l.inFlow && l.indent == c.column
  return { l with pending := some ⟨l.count, required, c.index, c.line, c.column⟩ }

/-- A key stands on one line and is at most 1024 characters long. -/
def isStale (c : Cursor) (k : PendingKey) : Bool := k.line < c.line || k.index + 1024 < c.index

/-- Gives up the possible keys that the text has left behind. -/
def dropStale? (l : Lexer) : Option Lexer :=
  let stale (k : Option PendingKey) : Bool := k.any (isStale l.cursor)
  if (l.pending :: l.outerPending).any fun k => stale k && k.any (·.required) then none
  else
    let keep (k : Option PendingKey) : Option PendingKey := if stale k then none else k
    some { l with pending := keep l.pending, outerPending := l.outerPending.map keep }

/-- Closes the blocks that are indented more than `column`. -/
def closeBlocks (column : Int) : Nat → Lexer → Lexer
  | 0, l => l
  | fuel + 1, l =>
    if column < l.indent then
      let l := l.push .blockEnd
      closeBlocks column fuel { l with indent := l.outer.headD (-1), outer := l.outer.drop 1 }
    else l

/-- Closes blocks, unless the place is in a flow collection. -/
def unindent (l : Lexer) (column : Int) : Lexer :=
  if l.inFlow then l else closeBlocks column (l.outer.length + 1) l

/-- Enters a block at a column that is indented more, and tells whether it did. -/
def indentTo (l : Lexer) (column : Nat) : Lexer × Bool :=
  if !l.inFlow && l.indent < column then ({ l with indent := column, outer := l.indent :: l.outer }, true)
  else (l, false)

/-- Enters a block at this place, which needs a place where a key may begin. -/
def enterBlock? (l : Lexer) (t : Token) : Option Lexer :=
  if l.inFlow then some l
  else if !l.keyAllowed then none
  else
    match l.indentTo l.cursor.column with
    | (l, true) => some (l.push t)
    | (l, false) => some l

/-- Goes on to the next token: over blanks, comments and line ends. -/
def toToken : Nat → Lexer → Lexer
  | 0, l => l
  | fuel + 1, l =>
    let c := l.cursor
    let c := if c.column == 0 && c.head? == some '\uFEFF' then c.skip 1 else c
    let c := c.dropWhile fun ch => ch == ' ' || ((l.inFlow || !l.keyAllowed) && ch == '\t')
    let c := c.skipComment
    match c.lineEnd? with
    | some (_, c) => toToken fuel { l with cursor := c, keyAllowed := l.keyAllowed || !l.inFlow }
    | none => { l with cursor := c }

/-- Begins a directive or a document mark: all blocks end, and no key may begin. -/
def leaveBlocks? (l : Lexer) : Option Lexer := do
  let l ← (l.unindent (-1)).dropPending?
  return { l with keyAllowed := false }

def readDirective? (l : Lexer) : Option Lexer := do
  let l ← l.leaveBlocks?
  let (t, c) ← directive? (l.cursor.skip 1)
  return { l.push t with cursor := c }

def openFlow? (l : Lexer) (t : Token) : Option Lexer := do
  let l ← l.notePending?
  let l := { l with outerPending := l.pending :: l.outerPending, pending := none, keyAllowed := true }
  return l.pushSkip t 1

def closeFlow? (l : Lexer) (t : Token) : Option Lexer := do
  let l ← l.dropPending?
  let l := { l with
    pending := (l.outerPending.head?).getD l.pending
    outerPending := l.outerPending.drop 1
    keyAllowed := false }
  return l.pushSkip t 1

def readFlowEntry? (l : Lexer) : Option Lexer := do
  let l ← l.dropPending?
  return { l with keyAllowed := true }.pushSkip .flowEntry 1

def readBlockEntry? (l : Lexer) : Option Lexer := do
  let l ← l.enterBlock? .blockSequenceStart
  let l ← l.dropPending?
  return { l with keyAllowed := true }.pushSkip .blockEntry 1

def readKey? (l : Lexer) : Option Lexer := do
  let l ← l.enterBlock? .blockMappingStart
  let l ← l.dropPending?
  return { l with keyAllowed := !l.inFlow }.pushSkip .key 1

/-- Reads the colon before a value: the key before it is the pending one, if there is one. -/
def readValue? (l : Lexer) : Option Lexer := do
  match l.pending with
  | some k =>
    let (l, entered) := l.indentTo k.column
    let opening := if entered then [Token.blockMappingStart, .key] else [.key]
    return { l with
      openings := (k.place, opening) :: l.openings
      pending := none
      keyAllowed := false }.pushSkip .value 1
  | none =>
    let l ← l.enterBlock? .blockMappingStart
    return { l with keyAllowed := !l.inFlow }.pushSkip .value 1

/-- A token that may start a key, read from the cursor by `read?`. -/
def readNode? (l : Lexer) (read? : Cursor → Option (Token × Cursor)) : Option Lexer := do
  let l ← l.notePending?
  let (t, c) ← read? l.cursor
  return { l.push t with cursor := c, keyAllowed := false }

def readBlockScalar? (l : Lexer) (isFolded : Bool) : Option Lexer := do
  let l ← l.dropPending?
  let (t, c) ← block? isFolded l.indent (l.cursor.skip 1)
  return { l.push (.scalar t (if isFolded then .folded else .literal)) with cursor := c, keyAllowed := true }

def readQuoted? (l : Lexer) (single : Bool) : Option Lexer :=
  l.readNode? fun c => do
    let (t, c) ← quoted? single (c.rest.length + 1) (c.skip 1)
    return (.scalar t .quoted, c)

/-- Reads a plain scalar; a line that ends in it allows a key after it. -/
def readPlain? (l : Lexer) : Option Lexer := do
  let l ← l.notePending?
  let (t, broken, c) ← plain? l.inFlow (l.indent + 1).toNat (l.cursor.rest.length + 1) {} l.cursor
  return { l.push (.scalar t .plain) with cursor := c, keyAllowed := broken }

/-- A plain scalar may begin with any character but a mark; a dash, and outside flows a question mark or a
colon, may begin one if no blank follows. -/
def startsPlain (inFlow : Bool) (ch : Char) (after : Text) : Bool :=
  !(isGap ch || isBreak ch || "-?:,[]\x7b\x7d#&*!|>'\"%@\x60".toList.contains ch) ||
    (ch == '-' && !after.head?.any isGap) ||
    (!inFlow && (ch == '?' || ch == ':') && !atWordEnd after)

/-- Reads the token that begins with `ch` before `after`. -/
def readToken? (l : Lexer) (ch : Char) (after : Text) : Option Lexer :=
  let c := l.cursor
  if c.column == 0 && ch == '%' then l.readDirective?
  else if c.atDocumentMark then do
    let l ← l.leaveBlocks?
    return l.pushSkip (if ch == '-' then .documentStart else .documentEnd) 3
  else if ch == '[' then l.openFlow? .flowSequenceStart
  else if ch == '\x7b' then l.openFlow? .flowMappingStart
  else if ch == ']' then l.closeFlow? .flowSequenceEnd
  else if ch == '\x7d' then l.closeFlow? .flowMappingEnd
  else if ch == ',' then l.readFlowEntry?
  else if ch == '-' && atWordEnd after then l.readBlockEntry?
  else if ch == '?' && (l.inFlow || atWordEnd after) then l.readKey?
  else if ch == ':' && (l.inFlow || atWordEnd after) then l.readValue?
  else if ch == '*' then l.readNode? fun c => (name? (c.skip 1)).map fun (name, c) => (.alias name, c)
  else if ch == '&' then l.readNode? fun c => (name? (c.skip 1)).map fun (name, c) => (.anchor name, c)
  else if ch == '!' then l.readNode? (Yaml.tag? l.inFlow)
  else if ch == '|' && !l.inFlow then l.readBlockScalar? false
  else if ch == '>' && !l.inFlow then l.readBlockScalar? true
  else if ch == '\'' then l.readQuoted? true
  else if ch == '"' then l.readQuoted? false
  else if startsPlain l.inFlow ch after then l.readPlain?
  else none

/-- Cuts the text into tokens up to its end, where every block ends. -/
def run? : Nat → Lexer → Option Lexer
  | 0, _ => none
  | fuel + 1, l => do
    let l ← (l.toToken (l.cursor.rest.length + 1)).dropStale?
    let l := l.unindent l.cursor.column
    match l.cursor.rest with
    | [] => (l.unindent (-1)).dropPending?
    | ch :: after => run? fuel (← l.readToken? ch after)

end Lexer

/-- The tokens of a YAML text, if it can be cut into tokens. -/
def tokens? (t : Text) : Option (List Token) := do
  if !t.all isPrintable then none
  let l ← Lexer.run? (t.length + 1) { cursor := { rest := t } }
  return (l.tokens.reverse.zipIdx).flatMap fun (token, place) => (l.openings.lookup place).getD [] ++ [token]

end TodoLedger.Yaml
