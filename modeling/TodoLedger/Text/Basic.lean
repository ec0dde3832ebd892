/-! Texts are lists of characters: every rule of the library recurses on the characters it reads. -/

namespace TodoLedger

/-- A text, as its Unicode characters in order. -/
abbrev Text := List Char

/-- Raw file content or the encoded form of a text. -/
abbrev Bytes := List UInt8

namespace Text

/-- The text before the first `c` and the text after it. -/
def cut? (c : Char) : Text → Option (Text × Text)
  | [] => none
  | d :: r => if d = c then some ([], r) else (cut? c r).map fun (head, tail) => (d :: head, tail)

/-- Whether `part` stands somewhere in a text. -/
def contains (part : Text) : Text → Bool
  | [] => part.isEmpty
  | c :: r => part.isPrefixOf (c :: r) || contains part r

/-- Removes at most `n` copies of `part` from the front. -/
def dropCopies (part : Text) : Nat → Text → Text
  | 0, t => t
  | n + 1, t =>
    match part.isPrefixOf? t with
    | some rest => dropCopies part n rest
    | none => t

/-- Removes every leading copy of `part`; a text has no more copies than characters. -/
def trimStartOf (part t : Text) : Text := dropCopies part t.length t

/-- Removes the trailing characters that satisfy `p`. -/
def dropEndWhile (p : Char → Bool) (t : Text) : Text := (t.reverse.dropWhile p).reverse

/-- The text without `ending`, if it ends so. -/
def stripEnd? (ending t : Text) : Option Text := ending.isSuffixOf? t

/-- Every `old` becomes `new`. -/
def substitute (old : Char) (new : Text) (t : Text) : Text :=
  t.flatMap fun c => if c = old then new else [c]

/-- A text filled up with blanks on the right to `width` characters. -/
def padRight (width : Nat) (t : Text) : Text := t ++ List.replicate (width - t.length) ' '

/-- A text filled up with blanks on the left to `width` characters. -/
def padLeft (width : Nat) (t : Text) : Text := List.replicate (width - t.length) ' ' ++ t

/-- The texts in order with `between` after all but the last. -/
def join (between : Text) (ts : List Text) : Text := between.intercalate ts

/-- The ASCII letters in lower case, all else as it is. -/
def lowerAscii (t : Text) : Text := t.map Char.toLower

/-- The order of texts by the code points of their characters; encoded texts have the same byte order. -/
def precedes (s t : Text) : Bool := decide (s < t)

/-- Inserts a text into an ascending list unless it is there already. -/
def insertSorted (t : Text) : List Text → List Text
  | [] => [t]
  | u :: r => if t = u then u :: r else if precedes t u then t :: u :: r else u :: insertSorted t r

/-- The distinct texts of a list, ascending. -/
def sortedSet (ts : List Text) : List Text := ts.foldr insertSorted []

/-! ### Blanks -/

/-- The characters with the Unicode property White_Space. -/
def isBlank (c : Char) : Bool :=
  let n := c.toNat
  (9 ≤ n && n ≤ 13) || n == 0x20 || n == 0x85 || n == 0xA0 || n == 0x1680 ||
    (0x2000 ≤ n && n ≤ 0x200A) || n == 0x2028 || n == 0x2029 || n == 0x202F || n == 0x205F || n == 0x3000

/-- A text without its leading blanks. -/
def trimStart (t : Text) : Text := t.dropWhile isBlank

/-- A text without its trailing blanks. -/
def trimEnd (t : Text) : Text := dropEndWhile isBlank t

/-- A text without the blanks at both ends. -/
def trim (t : Text) : Text := trimEnd (trimStart t)

/-- A text that holds nothing but blanks. -/
def allBlank (t : Text) : Bool := t.all isBlank

/-! ### Lines -/

/-- The lines of a text without their endings. A line ends at a line feed, a carriage return right before it is part of the
ending, and a last line needs no ending. -/
def lines : Text → List Text
  | [] => []
  | '\n' :: r => [] :: lines r
  | '\r' :: '\n' :: r => [] :: lines r
  | c :: r =>
    match lines r with
    | [] => [[c]]
    | line :: more => (c :: line) :: more

example : lines "a\r\n\nb\r".toList = ["a".toList, [], "b\r".toList] := by decide

/-! ### Characters by code point -/

/-- Inclusive ranges of code points, ascending and apart. -/
abbrev RangeTable := List (Nat × Nat)

/-- Whether a code point lies in one of the ranges. -/
def RangeTable.holds (table : RangeTable) (n : Nat) : Bool :=
  table.any fun (first, last) => first ≤ n && n ≤ last

end Text
end TodoLedger
