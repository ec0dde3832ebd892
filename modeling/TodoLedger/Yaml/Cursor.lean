import TodoLedger.Text.Number

/-! A place in a YAML text and the ways to move on from it. -/

namespace TodoLedger.Yaml

/-- A character that ends a line. -/
def isBreak (c : Char) : Bool :=
  c == '\n' || c == '\r' || c == '\u0085' || c == '\u2028' || c == '\u2029'

/-- A space or a tab. -/
def isGap (c : Char) : Bool := c == ' ' || c == '\t'

/-- A character of names, handles and directives. -/
def isNameChar (c : Char) : Bool := c.isAlphanum || c == '_' || c == '-'

/-- A character that may stand in a YAML text. -/
def isPrintable (c : Char) : Bool :=
  let n := c.toNat
  n == 0x9 || n == 0xA || n == 0xD || (0x20 ≤ n && n ≤ 0x7E) || n == 0x85 || (0xA0 ≤ n && n ≤ 0xFFFD) ||
    0x10000 ≤ n

/-- The text is at its end, at a space or at the end of a line. -/
def atWordEnd : Text → Bool
  | [] => true
  | c :: _ => isGap c || isBreak c

/-- A place in a text: what follows it, and where it is. -/
structure Cursor where
  rest : Text
  /-- How many characters come before. -/
  index : Nat := 0
  line : Nat := 0
  column : Nat := 0

namespace Cursor

def head? (c : Cursor) : Option Char := c.rest.head?

/-- The place `n` characters further on the line. -/
def skip (c : Cursor) (n : Nat) : Cursor :=
  { c with rest := c.rest.drop n, index := c.index + n, column := c.column + n }

/-- The characters from here on that satisfy `p`, and the place after them. -/
def takeWhile (p : Char → Bool) (c : Cursor) : Text × Cursor :=
  let t := c.rest.takeWhile p
  (t, c.skip t.length)

def dropWhile (p : Char → Bool) (c : Cursor) : Cursor := (c.takeWhile p).2

/-- The end of the line, if the place is at one, and the place after it. Most ends count as a line feed. -/
def lineEnd? (c : Cursor) : Option (Text × Cursor) :=
  let next (n : Nat) : Cursor := ⟨c.rest.drop n, c.index + n, c.line + 1, 0⟩
  match c.rest with
  | '\r' :: '\n' :: _ => some (['\n'], next 2)
  | ch :: _ =>
    if ch == '\u2028' || ch == '\u2029' then some ([ch], next 1)
    else if isBreak ch then some (['\n'], next 1)
    else none
  | [] => none

/-- The place after a comment, if one begins here. -/
def skipComment (c : Cursor) : Cursor :=
  if c.head? == some '#' then c.dropWhile fun ch => !isBreak ch else c

/-- The place after the blanks, the comment and the end of a line of which nothing else is left. -/
def restOfLine? (c : Cursor) : Option Cursor :=
  let c := (c.dropWhile isGap).skipComment
  if c.rest.isEmpty then some c else c.lineEnd?.map (·.2)

/-- A line that begins with three dashes or three dots separates documents. -/
def atDocumentMark (c : Cursor) : Bool :=
  c.column == 0 && (['-', '-', '-'].isPrefixOf c.rest || ['.', '.', '.'].isPrefixOf c.rest) &&
    atWordEnd (c.rest.drop 3)

end Cursor
end TodoLedger.Yaml
