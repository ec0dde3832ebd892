import TodoLedger.Json.Reader

/-! Which JSON values can be held as a whole: those with no broken part, with numbers below a bound, and not
nested too deep. -/

namespace TodoLedger.Json

/-- The least number that is too large: it rounds to 2^1024 in 53 binary digits. -/
def numberBound : Nat := Nat.pow 2 1024 - Nat.pow 2 970

/-- A written number as a whole number and the power of ten with which it is multiplied. -/
def scaled (written : Text) : Nat × Int :=
  let (decimal, exponent) := exponentParts (unsigned ['-'] written)
  let (whole, fraction) := (Text.cut? '.' decimal).getD (decimal, [])
  let shift : Int := (Text.digitsFrom? 10 0 (unsigned ['+', '-'] exponent)).getD 0
  ((Text.digitsFrom? 10 0 (whole ++ fraction)).getD 0,
    (if exponent.head? == some '-' then -shift else shift) - fraction.length)

/-- A written number below the bound. The power is compared before it is computed. -/
def isBounded (written : Text) : Bool :=
  let (n, power) := scaled written
  let size : Int := (Text.ofNat n).length + power
  if n = 0 || size < 300 then true
  else if 310 < size then false
  else if power < 0 then n < numberBound * Nat.pow 10 power.natAbs
  else n * Nat.pow 10 power.natAbs < numberBound

mutual

/-- A value that can be held and is nested at most `levels` deep. -/
def isHeld (levels : Nat) : Json → Bool
  | broken => false
  | number written => isBounded written
  | array items =>
    match levels with
    | 0 => false
    | levels + 1 => areItemsHeld levels items
  | object members =>
    match levels with
    | 0 => false
    | levels + 1 => areMembersHeld levels members
  | _ => true

def areItemsHeld (levels : Nat) : List Json → Bool
  | [] => true
  | item :: more => isHeld levels item && areItemsHeld levels more

def areMembersHeld (levels : Nat) : List (Text × Json) → Bool
  | [] => true
  | (_, value) :: more => isHeld levels value && areMembersHeld levels more

end

end TodoLedger.Json
