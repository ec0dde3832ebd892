import TodoLedger.Text.Utf8

/-! Addresses of web resources: an origin, a path, and a query. What an address may not hold is written as
`%` with the two digits of each byte. -/

namespace TodoLedger.Http

/-- An address; path and query hold what is sent. -/
structure Url where
  /-- Scheme, host and port. -/
  origin : Text
  path : List Text
  query : Option Text
deriving DecidableEq, Repr

namespace Url

/-- The two hexadecimal digits of a byte. -/
def hexDigits (b : UInt8) : Text :=
  let digit (n : Nat) : Char := (Nat.digitChar n).toUpper
  [digit (b.toNat / 16), digit (b.toNat % 16)]

/-- A text in UTF-8 with `%` and digits for each byte that is not kept. -/
def encode (keeps : Char → Bool) (t : Text) : Text :=
  (Text.utf8 t).flatMap fun b =>
    let c := Char.ofNat b.toNat
    if keeps c then [c] else '%' :: hexDigits b

/-- A printable ASCII character. -/
def isPrintable (c : Char) : Bool := 0x20 < c.toNat && c.toNat < 0x7F

/-- The characters that stand for themselves in a path. -/
def keptInPath (c : Char) : Bool := isPrintable c && !"\"#<>?\x60\x7b\x7d".toList.contains c

/-- The characters that stand for themselves in a query. -/
def keptInQuery (c : Char) : Bool := isPrintable c && !"\"#<>'".toList.contains c

/-- The characters that stand for themselves in a field of a form. -/
def keptInForm (c : Char) : Bool := c.isAlphanum || "*-._".toList.contains c

/-- A field of a form; blanks become plus signs. -/
def encodeField (t : Text) : Text :=
  Text.join ['+'] ((t.splitOn ' ').map (encode keptInForm))

/-- A segment with its encoded dots as dots. -/
def plainDots : Text → Text
  | '%' :: '2' :: 'e' :: r => '.' :: plainDots r
  | '%' :: '2' :: 'E' :: r => '.' :: plainDots r
  | c :: r => c :: plainDots r
  | [] => []

/-- A segment that stands for the path it stands in. -/
def isHere (segment : Text) : Bool := plainDots segment == ['.']

/-- A segment that takes away the one before it. -/
def isUp (segment : Text) : Bool := plainDots segment == ['.', '.']

/-- The path of segments after those done; where a dot segment is the last the path ends in a slash. -/
def resolve (done : List Text) : List Text → List Text
  | [] => done
  | [s] =>
    if isUp s then done.dropLast ++ [[]]
    else if isHere s then done ++ [[]]
    else done ++ [encode keptInPath s]
  | s :: more =>
    if isUp s then resolve done.dropLast more
    else if isHere s then resolve done more
    else resolve (done ++ [encode keptInPath s]) more

/-- A text without the blanks and controls around it and without tabs and line ends within. -/
def clean (t : Text) : Text :=
  (Text.dropEndWhile (·.toNat ≤ 0x20) (t.dropWhile (·.toNat ≤ 0x20))).filter fun c =>
    c != '\t' && c != '\n' && c != '\r'

/-- The part of a text before a character, and the part after it if it is there. -/
def split (c : Char) (t : Text) : Text × Option Text :=
  match Text.cut? c t with
  | some (head, tail) => (head, some tail)
  | none => (t, none)

/-- The address that a text spells, if its scheme is that of the web and it names a host. A fragment is
dropped. -/
def ofText? (t : Text) : Option Url := do
  let (scheme, rest) ← Text.cut? ':' (clean t)
  let scheme := Text.lowerAscii scheme
  if scheme != "http".toList && scheme != "https".toList then none
  else
    let (located, query) := split '?' (split '#' rest).1
    let located := (Text.substitute '\\' ['/'] located).dropWhile (· == '/')
    let (host, path) := split '/' located
    if host.isEmpty then none
    else
      some {
        origin := scheme ++ "://".toList ++ Text.lowerAscii host
        path := resolve [] ((path.getD []).splitOn '/')
        query := query.map (encode keptInQuery) }

/-- The address with more fields in its query. -/
def withFields (u : Url) (fields : List (Text × Text)) : Url :=
  let added := fields.map fun (name, value) => encodeField name ++ ['='] ++ encodeField value
  { u with query := some (Text.join ['&'] ((u.query.filter (!·.isEmpty)).toList ++ added)) }

/-- Path and query as they are sent. -/
def target (u : Url) : Text :=
  ['/'] ++ Text.join ['/'] u.path ++ u.query.elim [] ('?' :: ·)

end Url
end TodoLedger.Http
