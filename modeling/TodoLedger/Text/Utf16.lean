import TodoLedger.Text.Basic

/-! UTF-16: one or two units of two bytes for each character, in either byte order. -/

namespace TodoLedger.Text

/-- Which byte of a unit comes first. -/
inductive ByteOrder where
  | little
  | big
deriving DecidableEq, Repr

/-- The units of a character: one below 2^16, else a leading and a trailing surrogate. -/
def units (c : Char) : List Nat :=
  if c.toNat < 0x10000 then [c.toNat]
  else [0xD800 + (c.toNat - 0x10000) / 0x400, 0xDC00 + (c.toNat - 0x10000) % 0x400]

/-- A surrogate that has to come first in a pair. -/
def isLeading (u : Nat) : Bool := 0xD800 ≤ u && u < 0xDC00

/-- A surrogate that has to come second in a pair. -/
def isTrailing (u : Nat) : Bool := 0xDC00 ≤ u && u < 0xE000

/-- The character that a pair of surrogates stands for. -/
def paired (u v : Nat) : Char := Char.ofNat (0x10000 + (u - 0xD800) * 0x400 + (v - 0xDC00))

/-- The text that a sequence of units spells; surrogates have to come in pairs. -/
def ofUnits? : List Nat → Option Text
  | [] => some []
  | [u] => if isLeading u || isTrailing u then none else some [Char.ofNat u]
  | u :: v :: r =>
    if isLeading u then
      if isTrailing v then (ofUnits? r).map (paired u v :: ·) else none
    else if isTrailing u then none
    else (ofUnits? (v :: r)).map (Char.ofNat u :: ·)

namespace ByteOrder

/-- The two bytes of a unit. -/
def bytes (order : ByteOrder) (u : Nat) : Bytes :=
  let high := UInt8.ofNat (u / 256)
  let low := UInt8.ofNat u
  match order with
  | little => [low, high]
  | big => [high, low]

/-- The unit of two bytes. -/
def unit (order : ByteOrder) (a b : UInt8) : Nat :=
  match order with
  | little => b.toNat * 256 + a.toNat
  | big => a.toNat * 256 + b.toNat

/-- The units of a byte sequence, which has to have an even length. -/
def units? (order : ByteOrder) : Bytes → Option (List Nat)
  | [] => some []
  | [_] => none
  | a :: b :: r => (units? order r).map (order.unit a b :: ·)

end ByteOrder

/-- A text in UTF-16. -/
def utf16 (order : ByteOrder) (t : Text) : Bytes := (t.flatMap units).flatMap order.bytes

/-- The text that a byte sequence spells in UTF-16, if it spells one. -/
def ofUtf16? (order : ByteOrder) (bytes : Bytes) : Option Text := (order.units? bytes).bind ofUnits?

end TodoLedger.Text
