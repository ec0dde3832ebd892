import TodoLedger.Text.Utf8
import TodoLedger.Text.Utf16

/-! The encodings in which a source file may be stored. UTF-8 may carry a byte order mark, UTF-16 must. -/

namespace TodoLedger

/-- The encoding of a file. -/
inductive TextEncoding where
  | utf8
  | utf16 (order : Text.ByteOrder)
deriving DecidableEq, Repr

namespace TextEncoding

/-- The name of an encoding in messages. -/
def name : TextEncoding → Text
  | utf8 => "utf-8".toList
  | utf16 .little => "utf-16le".toList
  | utf16 .big => "utf-16be".toList

/-- The bytes that announce an encoding at the front of a file. -/
def mark : TextEncoding → Bytes
  | utf8 => [0xEF, 0xBB, 0xBF]
  | utf16 .little => [0xFF, 0xFE]
  | utf16 .big => [0xFE, 0xFF]

/-- A text in an encoding, without a mark. -/
def encode : TextEncoding → Text → Bytes
  | utf8 => Text.utf8
  | utf16 order => Text.utf16 order

/-- The text after the mark of an encoding. -/
def decodeMarked? (encoding : TextEncoding) (read : Bytes → Option Text) (bytes : Bytes) :
    Option (Text × TextEncoding) :=
  ((encoding.mark.isPrefixOf? bytes).bind read).map fun t => (t, encoding)

/-- The text of a file and its encoding: UTF-8 if the bytes after an optional mark are valid, else UTF-16 if
its mark stands first. -/
def decode? (bytes : Bytes) : Option (Text × TextEncoding) :=
  match Text.ofUtf8? ((utf8.mark.isPrefixOf? bytes).getD bytes) with
  | some t => some (t, utf8)
  | none =>
    (decodeMarked? (utf16 .little) (Text.ofUtf16? .little) bytes).or
      (decodeMarked? (utf16 .big) (Text.ofUtf16? .big) bytes)

end TextEncoding
end TodoLedger
