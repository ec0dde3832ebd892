import TodoLedger.Text.Utf8

/-! The parts of a glob pattern and what each of them matches. Paths are matched as bytes: `?` and a class
stand for one byte, a star for any bytes, slashes included. -/

namespace TodoLedger.Glob

/-- A part of a pattern. -/
inductive Token where
  | literal (c : Char)
  /-- One byte, whatever it is. -/
  | anyByte
  /-- Any bytes. -/
  | anyRun
  /-- Leading double star: any directories, or none. -/
  | leadingDirs
  /-- Double star at the end: a slash and anything below it. -/
  | everythingBelow
  /-- Double star between slashes: a slash, with any directories before the next one. -/
  | innerDirs
  /-- One byte of those that the ranges spell, or one of the others. -/
  | byteClass (negated : Bool) (ranges : List (Char × Char))
  /-- One of several patterns; without any the group matches nothing but the empty text. -/
  | alternatives (branches : List (List Token))

/-- The rests of a byte sequence, itself first. -/
def suffixes : Bytes → List Bytes
  | [] => [[]]
  | b :: r => (b :: r) :: suffixes r

def slash : UInt8 := 0x2F

/-- The rests after each slash. -/
def afterSlashes : Bytes → List Bytes
  | [] => []
  | b :: r => if b = slash then r :: afterSlashes r else afterSlashes r

/-- The byte ranges that a range of characters spells: its ends are encoded, and the dash joins the last
byte of one with the first byte of the other. -/
def byteRanges (first last : Char) : List (UInt8 × UInt8) :=
  let single (b : UInt8) := (b, b)
  if first = last then (Text.utf8 [first]).map single
  else
    match (Text.utf8 [first]).reverse, Text.utf8 [last] with
    | low :: before, high :: after => before.reverse.map single ++ (low, high) :: after.map single
    | _, _ => []

/-- A byte that a class admits. -/
def admits (negated : Bool) (ranges : List (Char × Char)) (b : UInt8) : Bool :=
  let listed := ranges.any fun (first, last) =>
    (byteRanges first last).any fun (low, high) => low ≤ b && b ≤ high
  listed != negated

mutual

/-- The rests of a byte sequence after a part of a pattern has matched at its front. -/
def Token.rests : Token → Bytes → List Bytes
  | .literal c, s => ((Text.utf8 [c]).isPrefixOf? s).toList
  | .anyByte, s =>
    match s with
    | [] => []
    | _ :: r => [r]
  | .anyRun, s => suffixes s
  | .leadingDirs, s => s :: afterSlashes s
  | .everythingBelow, s =>
    match s with
    | [] => []
    | b :: r => if b = slash then suffixes r else []
  | .innerDirs, s =>
    match s with
    | [] => []
    | b :: r => if b = slash then r :: afterSlashes r else []
  | .byteClass negated ranges, s =>
    match s with
    | [] => []
    | b :: r => if admits negated ranges b then [r] else []
  | .alternatives branches, s => if branches.isEmpty then [s] else branchRests branches s

/-- The rests after the parts of a pattern, one behind the other. -/
def sequenceRests : List Token → Bytes → List Bytes
  | [], s => [s]
  | t :: ts, s => ((t.rests s).eraseDups.map (sequenceRests ts)).flatten

/-- The rests after any one of several patterns. -/
def branchRests : List (List Token) → Bytes → List Bytes
  | [], _ => []
  | branch :: more, s => sequenceRests branch s ++ branchRests more s

end

end TodoLedger.Glob
