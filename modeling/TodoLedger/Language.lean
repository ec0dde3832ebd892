import TodoLedger.Text.Basic

/-! The comment syntax of the languages that are scanned, and the language of a file extension. An extension
without an entry is read as a generic language with C-like comments, so an odd file is still scanned. -/

namespace TodoLedger

/-- The delimiters of a block comment. -/
structure BlockComment where
  start : Text
  finish : Text
  start_ne_nil : start ≠ [] := by decide
deriving DecidableEq, Repr

/-- The comment syntax of a language. -/
structure Language where
  id : Text
  /-- Opens a comment that runs to the end of the line. -/
  lineMarker : Text
  block : Option BlockComment
  lineMarker_ne_nil : lineMarker ≠ [] := by decide
deriving DecidableEq, Repr

namespace Language

/-- Slash and star around a comment. -/
def starBlock : BlockComment := { start := "/*".toList, finish := "*/".toList }

/-- A language with the comments of C. -/
def likeC (id : String) : Language :=
  { id := id.toList, lineMarker := "//".toList, block := some starBlock }

/-- The language of every extension without an entry. -/
def generic : Language := likeC "generic"

/-- The languages with an entry. -/
def table : List Language := [
  { id := "python".toList, lineMarker := "#".toList,
    block := some { start := "'''".toList, finish := "'''".toList } },
  likeC "java", likeC "javascript", likeC "c", likeC "c++", likeC "php", likeC "swift",
  { id := "ruby".toList, lineMarker := "#".toList,
    block := some { start := "=begin".toList, finish := "=end".toList } },
  likeC "go", likeC "rust", likeC "kotlin", likeC "csharp", likeC "typescript", likeC "scala",
  { id := "shell".toList, lineMarker := "#".toList,
    block := some { start := ": '".toList, finish := "'".toList } },
  { id := "pascal".toList, lineMarker := "//".toList,
    block := some { start := ['\x7b'], finish := ['\x7d'] } },
  { id := "sql".toList, lineMarker := "--".toList, block := some starBlock },
  { id := "hash".toList, lineMarker := "#".toList, block := none }]

/-- The language that is scanned for each known extension, by the extension without its dot. -/
def extensions : List (Text × Text) :=
  [("py", "python"), ("pyi", "python"), ("java", "java"), ("js", "javascript"), ("jsx", "javascript"),
    ("mjs", "javascript"), ("cjs", "javascript"), ("c", "c"), ("h", "c"), ("cpp", "c++"), ("hpp", "c++"),
    ("cc", "c++"), ("cxx", "c++"), ("php", "php"), ("swift", "swift"), ("rb", "ruby"), ("go", "go"),
    ("rs", "rust"), ("kt", "kotlin"), ("kts", "kotlin"), ("cs", "csharp"), ("ts", "typescript"),
    ("tsx", "typescript"), ("scala", "scala"), ("sc", "scala"), ("sh", "shell"), ("bash", "shell"),
    ("zsh", "shell"), ("pas", "pascal"), ("pp", "pascal"), ("sql", "sql"), ("yaml", "hash"),
    ("yml", "hash"), ("toml", "hash")].map fun (extension, id) => (String.toList extension, String.toList id)

/-- The language with an identifier. -/
def byId? (id : Text) : Option Language :=
  if id = generic.id then some generic else table.find? (·.id == id)

/-- The language of a file extension, given with or without its dot and in any letter case. -/
def ofExtension (extension : Text) : Language :=
  let name := Text.lowerAscii (extension.dropWhile (· == '.'))
  ((extensions.lookup name).bind byId?).getD generic

/-- The extensions with an entry, ascending. -/
def knownExtensions : List Text := Text.sortedSet (extensions.map (·.1))

end Language
end TodoLedger
