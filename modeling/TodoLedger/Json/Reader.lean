import TodoLedger.Json.Basic
import TodoLedger.Text.Utf16

/-! Reading JSON values. Between tokens there may be spaces, tabs and line ends; a string holds no control
character that is not escaped; nothing may follow the value. -/

namespace TodoLedger.Json

/-- What may stand between tokens. -/
def isSpace (c : Char) : Bool := c == ' ' || c == '\n' || c == '\t' || c == '\r'

def skipSpaces (t : Text) : Text := t.dropWhile isSpace

/-- What a letter means after a backslash. -/
def unescaped? (c : Char) : Option Char :=
  if c == '"' || c == '\\' || c == '/' then some c
  else if c == 'b' then some '\x08'
  else if c == 'f' then some '\x0c'
  else if c == 'n' then some '\n'
  else if c == 'r' then some '\r'
  else if c == 't' then some '\t'
  else none

/-- The units that a string holds after its opening quote, and what follows the string. -/
def readUnits : Text → Option (List Nat × Text)
  | [] => none
  | '"' :: r => some ([], r)
  | '\\' :: 'u' :: a :: b :: c :: d :: r => do
    let unit ← Text.digits? 16 [a, b, c, d]
    let (units, rest) ← readUnits r
    some (unit :: units, rest)
  | '\\' :: c :: r => do
    let c ← unescaped? c
    let (units, rest) ← readUnits r
    some (c.toNat :: units, rest)
  | c :: r => do
    if c == '\\' || c.toNat < 0x20 then none
    else
      let (units, rest) ← readUnits r
      some (Text.units c ++ units, rest)

/-- A string of these units. -/
def ofUnits (units : List Nat) : Json := (Text.ofUnits? units).elim broken string

/-- An object with the names in units. -/
def ofMembers (members : List (List Nat × Json)) : Json :=
  let named := members.mapM fun (units, value) => do
    let name ← Text.ofUnits? units
    return (name, value)
  named.elim broken object

/-- One or more decimal digits. -/
def isDigits (t : Text) : Bool := !t.isEmpty && t.all Char.isDigit

/-- A number without sign and exponent: no leading zero before another digit, and digits on both sides of a
point. -/
def isDecimal (t : Text) : Bool :=
  let (whole, fraction) := (Text.cut? '.' t).getD (t, ['0'])
  isDigits whole && (whole.length == 1 || whole.head? != some '0') && isDigits fraction

/-- The text without one of the signs at its front. -/
def unsigned (signs : List Char) : Text → Text
  | [] => []
  | c :: r => if signs.contains c then r else c :: r

/-- The parts of a number before and after the mark of its exponent. -/
def exponentParts (t : Text) : Text × Text :=
  ((Text.cut? 'e' (Text.substitute 'E' ['e'] t)).getD (t, ['0']))

/-- A number as it may be written. -/
def isNumber (t : Text) : Bool :=
  let (decimal, exponent) := exponentParts (unsigned ['-'] t)
  isDecimal decimal && isDigits (unsigned ['+', '-'] exponent)

/-- A character of numbers. -/
def isNumeric (c : Char) : Bool := c.isDigit || ['+', '-', '.', 'e', 'E'].contains c

/-- A value that is neither a string nor holds others, and what follows it. -/
def readAtom (t : Text) : Option (Json × Text) :=
  let word (w : String) (value : Json) : Option (Json × Text) :=
    (w.toList.isPrefixOf? t).map (value, ·)
  (word "null" null).or <| (word "true" (bool true)).or <| (word "false" (bool false)).or <|
    let written := t.takeWhile isNumeric
    if isNumber written then some (number written, t.dropWhile isNumeric) else none

mutual

/-- The value at the front of a text and what follows it, in at most `fuel` steps down. -/
def readValue : (fuel : Nat) → Text → Option (Json × Text)
  | 0, _ => none
  | fuel + 1, t =>
    match skipSpaces t with
    | '"' :: r => (readUnits r).map fun (units, r) => (ofUnits units, r)
    | '[' :: r =>
      match skipSpaces r with
      | ']' :: r => some (array [], r)
      | r => (readItems fuel r).map fun (items, r) => (array items, r)
    | '\x7b' :: r =>
      match skipSpaces r with
      | '\x7d' :: r => some (object [], r)
      | r => (readMembers fuel r).map fun (members, r) => (ofMembers members, r)
    | r => readAtom r

/-- One or more items up to the end of an array. -/
def readItems : (fuel : Nat) → Text → Option (List Json × Text)
  | 0, _ => none
  | fuel + 1, t => do
    let (item, r) ← readValue fuel t
    match skipSpaces r with
    | ']' :: r => some ([item], r)
    | ',' :: r =>
      let (items, r) ← readItems fuel r
      some (item :: items, r)
    | _ => none

/-- One or more members up to the end of an object. -/
def readMembers : (fuel : Nat) → Text → Option (List (List Nat × Json) × Text)
  | 0, _ => none
  | fuel + 1, t =>
    match skipSpaces t with
    | '"' :: r => do
      let (name, r) ← readUnits r
      match skipSpaces r with
      | ':' :: r =>
        let (value, r) ← readValue fuel r
        match skipSpaces r with
        | '\x7d' :: r => some ([(name, value)], r)
        | ',' :: r =>
          let (members, r) ← readMembers fuel r
          some ((name, value) :: members, r)
        | _ => none
      | _ => none
    | _ => none

end

/-- The value that a text denotes. Every second step down takes a character. -/
def read? (t : Text) : Option Json :=
  match readValue (2 * t.length + 2) t with
  | some (value, r) => if (skipSpaces r).isEmpty then some value else none
  | none => none

end TodoLedger.Json
