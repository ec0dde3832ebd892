import TodoLedger.Text.Basic

/-! Counts as decimal text. -/

namespace TodoLedger.Text

/-- The largest count that settings and answers can carry. -/
def maxCount : Nat := Nat.pow 2 64 - 1

/-- The value of a digit in bases up to sixteen. -/
def digitValue? (c : Char) : Option Nat :=
  if '0' ≤ c && c ≤ '9' then some (c.toNat - '0'.toNat)
  else if 'a' ≤ c && c ≤ 'f' then some (c.toNat - 'a'.toNat + 10)
  else if 'A' ≤ c && c ≤ 'F' then some (c.toNat - 'A'.toNat + 10)
  else none

/-- The number that the digits of a text denote in `base` after the digits read so far. -/
def digitsFrom? (base acc : Nat) : Text → Option Nat
  | [] => some acc
  | c :: r => do
    let d ← digitValue? c
    if d < base then digitsFrom? base (acc * base + d) r else none

/-- The number that one or more digits denote, up to the largest count. -/
def digits? (base : Nat) (t : Text) : Option Nat :=
  if t.isEmpty then none else (digitsFrom? base 0 t).filter (· ≤ maxCount)

/-- A count: one or more decimal digits, after a plus sign or without. -/
def count? : Text → Option Nat
  | '+' :: t => digits? 10 t
  | t => digits? 10 t

/-- The decimal digits of a number. -/
def ofNat (n : Nat) : Text := Nat.toDigits 10 n

end TodoLedger.Text
