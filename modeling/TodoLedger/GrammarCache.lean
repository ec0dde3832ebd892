import TodoLedger.Directive

/-! Grammars kept for reuse: each is built when it is first asked for and never again. -/

namespace TodoLedger

/-- The grammars built so far, by the identifiers of their languages. -/
structure GrammarCache where
  built : List (Text × Grammar)

namespace GrammarCache

def empty : GrammarCache := ⟨[]⟩

/-- The language whose grammar serves `l`: `l` itself if it has an entry, else the generic one. -/
def served (l : Language) : Language :=
  if Language.table.any (·.id == l.id) then l else Language.generic

/-- The grammar of a language, and the cache that holds it from now on. -/
def get (cache : GrammarCache) (l : Language) : Grammar × GrammarCache :=
  match cache.built.lookup (served l).id with
  | some g => (g, cache)
  | none =>
    let g := Grammar.ofLanguage (served l)
    (g, ⟨cache.built ++ [((served l).id, g)]⟩)

/-- The grammar of a file extension. -/
def forExtension (cache : GrammarCache) (extension : Text) : Grammar × GrammarCache :=
  cache.get (Language.ofExtension extension)

/-- How many grammars have been built. -/
def builtCount (cache : GrammarCache) : Nat := cache.built.length

end GrammarCache
end TodoLedger
