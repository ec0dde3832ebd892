import TodoLedger.Text.Utf8
import TodoLedger.Yaml.Cursor

/-! The tokens of a YAML text, and the reading of tags and directives. -/

namespace TodoLedger.Yaml

/-- How a scalar is written. -/
inductive Style where
  | plain
  | quoted
  | literal
  | folded
deriving DecidableEq, Repr

/-- A tag as written: its handle and what follows it. -/
structure Tag where
  handle : Text
  ending : Text
deriving DecidableEq, Repr

inductive Token where
  | versionDirective (major minor : Nat)
  | tagDirective (handle start : Text)
  | documentStart
  | documentEnd
  | blockSequenceStart
  | blockMappingStart
  | blockEnd
  | flowSequenceStart
  | flowSequenceEnd
  | flowMappingStart
  | flowMappingEnd
  | blockEntry
  | flowEntry
  | key
  | value
  | alias (name : Text)
  | anchor (name : Text)
  | tag (t : Tag)
  | scalar (value : Text) (style : Style)
deriving DecidableEq, Repr

/-- A character of a tag, besides those of names. -/
def isTagMark (c : Char) : Bool := ";/?:@&=+$.%!~*'()".toList.contains c

/-- A character that only a directive or a tag in angle brackets may hold. -/
def isBracketMark (c : Char) : Bool := c == ',' || c == '[' || c == ']'

/-- The byte that a percent sign and two hexadecimal digits stand for. -/
def percentByte? : Text → Option UInt8
  | '%' :: a :: b :: _ => do return UInt8.ofNat ((← Text.digitValue? a) * 16 + (← Text.digitValue? b))
  | _ => none

/-- How many bytes the character has that begins with a byte. -/
def encodedSize? (b : UInt8) : Option Nat :=
  if b < 0x80 then some 1
  else if b &&& 0xE0 == 0xC0 then some 2
  else if b &&& 0xF0 == 0xE0 then some 3
  else if b &&& 0xF8 == 0xF0 then some 4
  else none

/-- The `n` bytes that have to continue a character. -/
def percentTail? : Nat → Cursor → Option (Bytes × Cursor)
  | 0, c => some ([], c)
  | n + 1, c => do
    let b ← percentByte? c.rest
    if b &&& 0xC0 != 0x80 then none
    let (tail, c) ← percentTail? n (c.skip 3)
    return (b :: tail, c)

/-- The characters of a tag from here on; `wide` admits brackets and commas. -/
def tagText? (wide : Bool) : Nat → Cursor → Option (Text × Cursor)
  | 0, _ => none
  | fuel + 1, c =>
    match c.rest with
    | [] => some ([], c)
    | ch :: _ => do
      if ch == '%' then
        let b ← percentByte? c.rest
        let size ← encodedSize? b
        let (tail, c) ← percentTail? (size - 1) (c.skip 3)
        let (more, c) ← tagText? wide fuel c
        return (Text.ofUtf8Lossy (b :: tail) ++ more, c)
      else if isNameChar ch || isTagMark ch || (wide && isBracketMark ch) then
        let (more, c) ← tagText? wide fuel (c.skip 1)
        return (ch :: more, c)
      else return ([], c)

/-- The handle of a tag: an exclamation mark, then a name, then perhaps another mark. -/
def tagHandle? (c : Cursor) : Option (Text × Cursor) :=
  if c.head? != some '!' then none
  else
    let (name, c) := (c.skip 1).takeWhile isNameChar
    if c.head? == some '!' then some ('!' :: name ++ ['!'], c.skip 1) else some ('!' :: name, c)

/-- A handle that ends in a mark of its own. -/
def isFullHandle (handle : Text) : Bool := 1 < handle.length && handle.getLast? == some '!'

/-- A tag, which a blank or the end of the line must follow, in a flow also a comma. -/
def tag? (inFlow : Bool) (c : Cursor) : Option (Token × Cursor) := do
  let fuel := c.rest.length + 1
  let (t, c) ← match c.rest with
    | '!' :: '<' :: _ => do
      let (ending, c) ← tagText? true fuel (c.skip 2)
      if ending.isEmpty || c.head? != some '>' then none
      pure ((⟨[], ending⟩ : Tag), c.skip 1)
    | _ => do
      let (handle, c) ← tagHandle? c
      let (ending, c) ← tagText? false fuel c
      if isFullHandle handle then
        if ending.isEmpty then none
        pure (⟨handle, ending⟩, c)
      else
        let ending := handle.drop 1 ++ ending
        pure (if ending.isEmpty then ⟨[], ['!']⟩ else ⟨['!'], ending⟩, c)
  if atWordEnd c.rest || (inFlow && c.head? == some ',') then return (.tag t, c) else none

/-- An alias or an anchor after its mark. -/
def name? (c : Cursor) : Option (Text × Cursor) :=
  let (name, c) := c.takeWhile isNameChar
  if name.isEmpty then none
  else if atWordEnd c.rest || c.rest.head?.any (fun ch => "?:,]\x7d%@\x60".toList.contains ch) then
    some (name, c)
  else none

/-- A number of at most nine digits. -/
def versionNumber? (c : Cursor) : Option (Nat × Cursor) := do
  let (digits, c) := c.takeWhile Char.isDigit
  if 9 < digits.length then none
  let n ← Text.digits? 10 digits
  return (n, c)

/-- A directive after its percent sign, up to the next line. -/
def directive? (c : Cursor) : Option (Token × Cursor) := do
  let (name, c) := c.takeWhile isNameChar
  if name.isEmpty || !atWordEnd c.rest then none
  let c := c.dropWhile isGap
  let (token, c) ←
    if name == "YAML".toList then do
      let (major, c) ← versionNumber? c
      if c.head? != some '.' then none
      let (minor, c) ← versionNumber? (c.skip 1)
      pure (Token.versionDirective major minor, c)
    else if name == "TAG".toList then do
      let (handle, c) ← tagHandle? c
      if handle != ['!'] && !isFullHandle handle then none
      if !c.rest.head?.any isGap then none
      let c := c.dropWhile isGap
      let (start, c) ← tagText? true (c.rest.length + 1) c
      if start.isEmpty || !atWordEnd c.rest then none
      pure (Token.tagDirective handle start, c)
    else none
  let c ← c.restOfLine?
  return (token, c)

end TodoLedger.Yaml
