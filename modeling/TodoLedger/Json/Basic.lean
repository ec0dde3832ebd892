import TodoLedger.Text.Number

/-! JSON values and their text over several lines. -/

namespace TodoLedger

/-- A JSON value. A number is kept as it is written. -/
inductive Json where
  | null
  | bool (b : Bool)
  | number (written : Text)
  | string (t : Text)
  /-- A string that escapes half a surrogate pair, which is no text, or an object with such a name. -/
  | broken
  | array (items : List Json)
  | object (members : List (Text × Json))

namespace Json

def ofNat (n : Nat) : Json := number (Text.ofNat n)

def ofTexts (ts : List Text) : Json := array (ts.map string)

/-- A character inside a string. -/
def escapedChar (c : Char) : Text :=
  if c == '"' || c == '\\' then ['\\', c]
  else if c == '\x08' then ['\\', 'b']
  else if c == '\x0c' then ['\\', 'f']
  else if c == '\n' then ['\\', 'n']
  else if c == '\r' then ['\\', 'r']
  else if c == '\t' then ['\\', 't']
  else if c.toNat < 0x20 then
    "\\u00".toList ++ [Nat.digitChar (c.toNat / 16), Nat.digitChar (c.toNat % 16)]
  else [c]

/-- A text as a JSON string. -/
def renderString (t : Text) : Text := ['"'] ++ t.flatMap escapedChar ++ ['"']

/-- The start of a line at a depth. -/
def newLine (depth : Nat) : Text := '\n' :: List.replicate (2 * depth) ' '

mutual

/-- A value at a depth, each item and member on a line of its own. -/
def render (depth : Nat) : Json → Text
  | null => "null".toList
  | bool true => "true".toList
  | bool false => "false".toList
  | number written => written
  | string t => renderString t
  | broken => "\"\\ud800\"".toList
  | array [] => ['[', ']']
  | array (item :: more) =>
    ['['] ++ newLine (depth + 1) ++ render (depth + 1) item ++ renderItems (depth + 1) more ++
      newLine depth ++ [']']
  | object [] => ['\x7b', '\x7d']
  | object ((name, value) :: more) =>
    ['\x7b'] ++ newLine (depth + 1) ++ renderString name ++ [':', ' '] ++ render (depth + 1) value ++
      renderMembers (depth + 1) more ++ newLine depth ++ ['\x7d']

/-- The items after the first. -/
def renderItems (depth : Nat) : List Json → Text
  | [] => []
  | item :: more => [','] ++ newLine depth ++ render depth item ++ renderItems depth more

/-- The members after the first. -/
def renderMembers (depth : Nat) : List (Text × Json) → Text
  | [] => []
  | (name, value) :: more =>
    [','] ++ newLine depth ++ renderString name ++ [':', ' '] ++ render depth value ++
      renderMembers depth more

end

/-- A value over several lines. -/
def pretty (j : Json) : Text := render 0 j

end Json
end TodoLedger
