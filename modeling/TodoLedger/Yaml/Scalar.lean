import TodoLedger.Yaml.Cursor

/-! The text of scalars: quoted ones with their escapes, plain ones, and blocks. A line break inside a scalar
is folded to a space, a further one is kept. -/

namespace TodoLedger.Yaml

/-- The space between two words of a scalar. -/
structure Gap where
  /-- The blanks, unless a line ends. -/
  blanks : Text := []
  /-- The first end of a line. -/
  lineEnd : Text := []
  /-- The further ends of lines. -/
  emptyLines : Text := []
  broken : Bool := false

namespace Gap

/-- What a gap contributes to the text. -/
def folded (g : Gap) : Text :=
  if !g.broken then g.blanks
  else if g.lineEnd == ['\n'] then if g.emptyLines.isEmpty then [' '] else g.emptyLines
  else g.lineEnd ++ g.emptyLines

end Gap

/-- Reads on through a gap. On a new line no tab may stand before column `indent`. -/
def gap? (indent : Nat) : Nat → Gap → Cursor → Option (Gap × Cursor)
  | 0, g, c => some (g, c)
  | fuel + 1, g, c =>
    match c.lineEnd? with
    | some (lineEnd, next) =>
      if g.broken then gap? indent fuel { g with emptyLines := g.emptyLines ++ lineEnd } next
      else gap? indent fuel { g with blanks := [], lineEnd, broken := true } next
    | none =>
      match c.rest with
      | [] => some (g, c)
      | ch :: _ =>
        if !isGap ch then some (g, c)
        else if !g.broken then gap? indent fuel { g with blanks := g.blanks ++ [ch] } (c.skip 1)
        else if ch == '\t' && c.column < indent then none
        else gap? indent fuel g (c.skip 1)

/-- The character that a letter after a backslash stands for. -/
def escape? (ch : Char) : Option Char :=
  [('0', '\x00'), ('a', '\x07'), ('b', '\x08'), ('t', '\t'), ('\t', '\t'), ('n', '\n'), ('v', '\x0b'),
    ('f', '\x0c'), ('r', '\r'), ('e', '\x1b'), (' ', ' '), ('"', '"'), ('/', '/'), ('\\', '\\'),
    ('N', '\u0085'), ('_', '\u00a0'), ('L', '\u2028'), ('P', '\u2029')].lookup ch

/-- How many hexadecimal digits follow a letter after a backslash. -/
def hexSize? (ch : Char) : Option Nat := [('x', 2), ('u', 4), ('U', 8)].lookup ch

/-- The character that exactly `size` hexadecimal digits denote. -/
def hexChar? (size : Nat) (t : Text) : Option Char := do
  let digits := t.take size
  if digits.length < size then none
  let n ← Text.digitsFrom? 16 0 digits
  if (0xD800 ≤ n && n ≤ 0xDFFF) || 0x10FFFF < n then none
  return Char.ofNat n

/-- A quoted word: its text, whether an escaped line end closes it, and the place after it. -/
def quotedWord? (single : Bool) : Nat → Cursor → Option (Text × Bool × Cursor)
  | 0, _ => none
  | fuel + 1, c =>
    let mark := if single then '\'' else '"'
    let keep (t : Text) (c : Cursor) : Option (Text × Bool × Cursor) := do
      let (word, closed, c) ← quotedWord? single fuel c
      return (t ++ word, closed, c)
    match c.rest with
    | [] => some ([], false, c)
    | ch :: after =>
      if atWordEnd c.rest then some ([], false, c)
      else if single && ch == mark && after.head? == some mark then keep [mark] (c.skip 2)
      else if ch == mark then some ([], false, c)
      else if !single && ch == '\\' then
        match (c.skip 1).lineEnd? with
        | some (_, c) => some ([], true, c)
        | none => do
          let letter ← after.head?
          match hexSize? letter with
          | some size => keep [← hexChar? size (after.drop 1)] (c.skip (2 + size))
          | none => keep [← escape? letter] (c.skip 2)
      else keep [ch] (c.skip 1)

/-- A quoted scalar after its opening mark. -/
def quoted? (single : Bool) : Nat → Cursor → Option (Text × Cursor)
  | 0, _ => none
  | fuel + 1, c => do
    if c.atDocumentMark || c.rest.isEmpty then none
    let (word, closed, c) ← quotedWord? single (c.rest.length + 1) c
    if c.head? == some (if single then '\'' else '"') then return (word, c.skip 1)
    let (g, c) ← gap? 0 (c.rest.length + 1) { broken := closed } c
    let (more, c) ← quoted? single fuel c
    return (word ++ g.folded ++ more, c)

/-- A character that a flow collection needs for itself. -/
def isFlowMark (c : Char) : Bool := ",[]\x7b\x7d".toList.contains c

/-- A plain word. In a flow no colon may stand directly before a mark of the flow. -/
def plainWord? (inFlow : Bool) : Nat → Cursor → Option (Text × Cursor)
  | 0, c => some ([], c)
  | fuel + 1, c =>
    match c.rest with
    | [] => some ([], c)
    | ch :: after =>
      if atWordEnd c.rest then some ([], c)
      else if inFlow && ch == ':' && after.head?.any (fun d => isFlowMark d || d == '?') then none
      else if ch == ':' && atWordEnd after || inFlow && isFlowMark ch then some ([], c)
      else do
        let (word, c) ← plainWord? inFlow fuel (c.skip 1)
        return (ch :: word, c)

/-- A plain scalar that goes on after `g`: its text, whether a line ended last, and the place after it. -/
def plain? (inFlow : Bool) (indent : Nat) : Nat → Gap → Cursor → Option (Text × Bool × Cursor)
  | 0, _, _ => none
  | fuel + 1, g, c => do
    if c.atDocumentMark || c.head? == some '#' then return ([], g.broken, c)
    let (word, c) ← plainWord? inFlow (c.rest.length + 1) c
    let before := if word.isEmpty then [] else g.folded ++ word
    let unbroken : Gap := if word.isEmpty then g else {}
    if !c.rest.head?.any (fun ch => isGap ch || isBreak ch) then return (before, unbroken.broken, c)
    let (g, c) ← gap? indent (c.rest.length + 1) unbroken c
    if !inFlow && c.column < indent then return (before, g.broken, c)
    let (more, broken, c) ← plain? inFlow indent fuel g c
    return (before ++ more, broken, c)

/-- What becomes of the line ends after a block. -/
inductive Chomping where
  | strip
  | clip
  | keep
deriving DecidableEq, Repr

/-- How a block is laid out: what is kept of its end, and how far it is indented if that is given. -/
structure BlockHeader where
  chomping : Chomping
  increment : Option Nat

/-- The sign of a block header. -/
def chomping? (c : Cursor) : Option (Chomping × Cursor) :=
  match c.head? with
  | some '+' => some (.keep, c.skip 1)
  | some '-' => some (.strip, c.skip 1)
  | _ => none

/-- The digit of a block header, which must not be zero; without a digit there is none. -/
def increment? (c : Cursor) : Option (Option Nat × Cursor) :=
  match c.head? with
  | some ch =>
    if ch == '0' then none
    else if ch.isDigit then some (Text.digitValue? ch, c.skip 1)
    else some (none, c)
  | none => some (none, c)

/-- The header of a block in either order. -/
def blockHeader? (c : Cursor) : Option (BlockHeader × Cursor) :=
  match chomping? c with
  | some (chomping, c) => do
    let (increment, c) ← increment? c
    return (⟨chomping, increment⟩, c)
  | none => do
    let (increment, c) ← increment? c
    match if increment.isSome then chomping? c else none with
    | some (chomping, c) => return (⟨chomping, increment⟩, c)
    | none => return (⟨.clip, increment⟩, c)

/-- Reads over the indentation and the empty lines before a line of a block: their line ends and the widest
indentation. Without a given indentation every space counts to it; no tab may stand in it. -/
def emptyLines? (indent : Option Nat) : Nat → Text → Nat → Cursor → Option (Text × Nat × Cursor)
  | 0, ends, widest, c => some (ends, widest, c)
  | fuel + 1, ends, widest, c =>
    let spaces := (c.rest.takeWhile (· == ' ')).length
    let c := c.skip (match indent with
      | some n => min spaces (n - c.column)
      | none => spaces)
    let widest := max widest c.column
    if c.head? == some '\t' && indent.all (c.column < ·) then none
    else
      match c.lineEnd? with
      | some (lineEnd, next) => emptyLines? indent fuel (ends ++ lineEnd) widest next
      | none => some (ends, widest, c)

/-- The lines of a block, each with the line end before it: `lineEnd` ended the last line, `ends` the empty
ones after it. A folded block joins two lines by a space unless one of them begins with a blank. -/
def blockLines? (folded : Bool) (chomping : Chomping) (indent : Nat) :
    Nat → (lineEnd ends : Text) → (wasIndented : Bool) → Cursor → Option (Text × Cursor)
  | 0, _, _, _, _ => none
  | fuel + 1, lineEnd, ends, wasIndented, c =>
    if c.column != indent || c.rest.isEmpty then
      let tail := (if chomping == .strip then [] else lineEnd) ++ if chomping == .keep then ends else []
      some (tail, c)
    else do
      let isIndented := c.rest.head?.any isGap
      let joint :=
        if folded && lineEnd == ['\n'] && !wasIndented && !isIndented then
          if ends.isEmpty then [' '] else ends
        else lineEnd ++ ends
      let (line, c) := c.takeWhile fun ch => !isBreak ch
      let (lineEnd, c) := c.lineEnd?.getD ([], c)
      let (ends, _, c) ← emptyLines? (some indent) (c.rest.length + 1) [] 0 c
      let (more, c) ← blockLines? folded chomping indent fuel lineEnd ends isIndented c
      return (joint ++ line ++ more, c)

/-- A block scalar after its mark, below a node that is indented by `parent`. -/
def block? (folded : Bool) (parent : Int) (c : Cursor) : Option (Text × Cursor) := do
  let (header, c) ← blockHeader? c
  let c ← c.restOfLine?
  let fuel := c.rest.length + 1
  let given := header.increment.map fun n => if 0 ≤ parent then parent.toNat + n else n
  let (ends, widest, c) ← emptyLines? given fuel [] 0 c
  let indent := given.getD (max widest (max (parent + 1).toNat 1))
  blockLines? folded header.chomping indent fuel [] ends false c

end TodoLedger.Yaml
