import TodoLedger.Text.Basic

/-! UTF-8: one to four bytes for each character. -/

namespace TodoLedger.Text

/-- A text in UTF-8. -/
def utf8 (t : Text) : Bytes := t.flatMap String.utf8EncodeChar

/-- The text that a byte sequence spells in UTF-8, if it spells one. -/
def ofUtf8? (bytes : Bytes) : Option Text :=
  (ByteArray.mk bytes.toArray).utf8Decode?.map Array.toList

/-- A byte that continues a character. -/
def isContinuation (b : UInt8) : Bool := 0x80 ≤ b && b ≤ 0xBF

/-- How many bytes at the front form the longest start of a character, and whether they complete it. -/
def leadingSpan : Bytes → Nat × Bool
  | [] => (0, false)
  | a :: r =>
    let tail (second : UInt8 → Bool) (needed : Nat) : Nat × Bool :=
      match r with
      | [] => (1, false)
      | b :: r' =>
        if second b then
          let more := ((r'.take (needed - 1)).takeWhile isContinuation).length
          (2 + more, more == needed - 1)
        else (1, false)
    if a < 0x80 then (1, true)
    else if 0xC2 ≤ a && a ≤ 0xDF then tail isContinuation 1
    else if a == 0xE0 then tail (fun b => 0xA0 ≤ b && b ≤ 0xBF) 2
    else if a == 0xED then tail (fun b => 0x80 ≤ b && b ≤ 0x9F) 2
    else if 0xE1 ≤ a && a ≤ 0xEF then tail isContinuation 2
    else if a == 0xF0 then tail (fun b => 0x90 ≤ b && b ≤ 0xBF) 3
    else if a == 0xF4 then tail (fun b => 0x80 ≤ b && b ≤ 0x8F) 3
    else if 0xF1 ≤ a && a ≤ 0xF3 then tail isContinuation 3
    else (1, false)

/-- Reads at most `fuel` spans; see `ofUtf8Lossy`. -/
def readSpans : Nat → Bytes → Text
  | 0, _ => []
  | _, [] => []
  | fuel + 1, bytes =>
    let (size, complete) := leadingSpan bytes
    let here := if complete then (ofUtf8? (bytes.take size)).getD ['\uFFFD'] else ['\uFFFD']
    here ++ readSpans fuel (bytes.drop size)

/-- The text of a byte sequence in which each longest start of a character that is not completed is shown
as a replacement character. -/
def ofUtf8Lossy (bytes : Bytes) : Text := readSpans bytes.length bytes

end TodoLedger.Text
