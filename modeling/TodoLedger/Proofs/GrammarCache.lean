import Mathlib.Data.Finset.Card
import TodoLedger.GrammarCache
import TodoLedger.Proofs.Directive.Line

/-! Grammars out of the cache. A cache that was only asked for known languages holds one grammar for each identifier
it was asked for, the one that is built for it, so no answer depends on what was asked before. -/

namespace TodoLedger

namespace Language

/-- The languages with an entry and the generic one. -/
def known : List Language := generic :: table

theorem eq_of_id_eq {l m : Language} (hl : l ∈ known) (hm : m ∈ known) (id : l.id = m.id) : l = m := by
  have told : ∀ l ∈ known, ∀ m ∈ known, l.id = m.id → l = m := by decide +kernel
  exact told l hl m hm id

end Language

namespace GrammarCache

/-- What the cache is asked: for the grammar of a language or of a file extension. -/
inductive Request where
  | language (l : Language)
  | extension (name : Text)

/-- The language whose grammar is asked for. -/
def Request.wanted : Request → Language
  | language l => l
  | extension name => Language.ofExtension name

def answer (cache : GrammarCache) : Request → Grammar × GrammarCache
  | .language l => cache.get l
  | .extension name => cache.forExtension name

/-- The answers to requests in turn, and the cache that is left. -/
def answers (cache : GrammarCache) : List Request → List Grammar × GrammarCache
  | [] => ([], cache)
  | r :: rs =>
    let rest := (cache.answer r).2.answers rs
    ((cache.answer r).1 :: rest.1, rest.2)

/-- The grammar that was built for a language. -/
def slot? (cache : GrammarCache) (id : Text) : Option Grammar := cache.built.lookup id

variable {cache : GrammarCache} {l : Language} {r : Request} {rs : List Request} {asked : List Text}

theorem answers_append (cache : GrammarCache) (before later : List Request) :
    cache.answers (before ++ later) =
      ((cache.answers before).1 ++ ((cache.answers before).2.answers later).1,
        ((cache.answers before).2.answers later).2) := by
  induction before generalizing cache with
  | nil => rfl
  | cons r rs ih => rw [List.cons_append, answers, ih, answers, List.cons_append]

/-! ### One request -/

theorem answer_eq_get (cache : GrammarCache) (r : Request) : cache.answer r = cache.get r.wanted := by
  cases r <;> rfl

/-- A known language is served by its own grammar. -/
theorem served_of_known (known : l ∈ Language.known) : served l = l := by
  rw [served]
  split
  · rfl
  · rename_i absent
    obtain rfl | listed := List.mem_cons.mp known
    · rfl
    · exact absurd (List.any_eq_true.mpr ⟨l, listed, beq_self_eq_true l.id⟩) absent

/-- What a cache holds after requests for languages with the identifiers `asked`: each grammar is the one that is built
for a known language, and each identifier that was asked for has one. -/
structure Holds (cache : GrammarCache) (asked : List Text) : Prop where
  entry : ∀ id g, (id, g) ∈ cache.built → ∃ l ∈ Language.known, l.id = id ∧ g = Grammar.ofLanguage l
  distinct : (cache.built.map Prod.fst).Nodup
  complete : ∀ id, id ∈ cache.built.map Prod.fst ↔ id ∈ asked

theorem holds_empty : empty.Holds [] := ⟨nofun, List.nodup_nil, fun _ => Iff.rfl⟩

theorem slot?_eq_none_iff : cache.slot? l.id = none ↔ l.id ∉ cache.built.map Prod.fst := by
  rw [slot?, List.lookup_eq_none_iff, List.mem_map]
  constructor
  · rintro apart ⟨entry, mem, same⟩
    exact absurd same.symm (bne_iff_ne.mp (apart entry mem))
  · intro absent entry mem
    exact bne_iff_ne.mpr fun same => absent ⟨entry, mem, same.symm⟩

theorem Holds.slot? (holds : cache.Holds asked) (known : l ∈ Language.known) {g : Grammar}
    (found : cache.slot? l.id = some g) : g = Grammar.ofLanguage l := by
  obtain ⟨front, back, split, -⟩ := List.lookup_eq_some_iff.mp found
  obtain ⟨m, also, id, rfl⟩ := holds.entry l.id g (split ▸ List.mem_append_right front List.mem_cons_self)
  rw [Language.eq_of_id_eq also known id]

/-- A language that was asked for before is answered without a change. -/
theorem Holds.get_of_asked (holds : cache.Holds asked) (known : l ∈ Language.known) (before : l.id ∈ asked) :
    cache.get l = (Grammar.ofLanguage l, cache) := by
  have filled : cache.slot? l.id ≠ none := fun absent =>
    slot?_eq_none_iff.mp absent ((holds.complete l.id).mpr before)
  obtain ⟨g, found⟩ := Option.ne_none_iff_exists'.mp filled
  obtain rfl := holds.slot? known found
  rw [get, served_of_known known, show cache.built.lookup l.id = _ from found]

/-- A language that was not asked for before gets its grammar behind those that are there. -/
theorem Holds.get_of_fresh (holds : cache.Holds asked) (known : l ∈ Language.known) (fresh : l.id ∉ asked) :
    cache.get l = (Grammar.ofLanguage l, ⟨cache.built ++ [(l.id, Grammar.ofLanguage l)]⟩) := by
  have absent : cache.slot? l.id = none := slot?_eq_none_iff.mpr fun there => fresh ((holds.complete l.id).mp there)
  rw [get, served_of_known known, show cache.built.lookup l.id = none from absent]

theorem Holds.get_fst (holds : cache.Holds asked) (known : l ∈ Language.known) :
    (cache.get l).1 = Grammar.ofLanguage l := by
  by_cases before : l.id ∈ asked
  · rw [holds.get_of_asked known before]
  · rw [holds.get_of_fresh known before]

/-- A request for a known language leaves a cache that has been asked for it as well. -/
theorem Holds.get (holds : cache.Holds asked) (known : l ∈ Language.known) :
    (cache.get l).2.Holds (asked ++ [l.id]) := by
  by_cases before : l.id ∈ asked
  · rw [holds.get_of_asked known before]
    refine ⟨holds.entry, holds.distinct, fun id => ?_⟩
    rw [holds.complete, List.mem_append, List.mem_singleton, or_iff_left_of_imp fun same => same ▸ before]
  · rw [holds.get_of_fresh known before]
    refine ⟨fun id g mem => ?_, ?_, fun id => ?_⟩
    · obtain there | here := List.mem_append.mp mem
      · exact holds.entry id g there
      · cases List.mem_singleton.mp here
        exact ⟨l, known, rfl, rfl⟩
    · rw [List.map_append, List.map_singleton, ← List.concat_eq_append]
      exact holds.distinct.concat fun there => before ((holds.complete l.id).mp there)
    · rw [List.map_append, List.map_singleton, List.mem_append, List.mem_append, holds.complete]

theorem Holds.builtCount (holds : cache.Holds asked) : cache.builtCount = asked.toFinset.card := by
  have same : (cache.built.map Prod.fst).toFinset = asked.toFinset := by
    ext id
    rw [List.mem_toFinset, List.mem_toFinset, holds.complete]
  rw [← same, List.toFinset_card_of_nodup holds.distinct, List.length_map, GrammarCache.builtCount]

/-! ### Requests in turn -/

theorem Request.wanted_known (known : ∀ l, r = .language l → l ∈ Language.known) : r.wanted ∈ Language.known := by
  cases r with
  | language l => exact known l rfl
  | extension name => exact Language.ofExtension_mem name

/-- The identifiers of the languages that are asked for. -/
def identifiers (rs : List Request) : List Text := rs.map fun r => r.wanted.id

theorem Holds.answers (holds : cache.Holds asked) (known : ∀ r ∈ rs, r.wanted ∈ Language.known) :
    (cache.answers rs).1 = rs.map (fun r => Grammar.ofLanguage r.wanted) ∧
      (cache.answers rs).2.Holds (asked ++ identifiers rs) := by
  induction rs generalizing cache asked with
  | nil => exact ⟨rfl, (List.append_nil asked).symm ▸ holds⟩
  | cons r rs ih =>
    obtain ⟨here, others⟩ := List.forall_mem_cons.mp known
    have next := ih (holds.get here) others
    rw [List.append_assoc, ← answer_eq_get] at next
    refine ⟨?_, next.2⟩
    rw [GrammarCache.answers, next.1, answer_eq_get, holds.get_fst here, List.map_cons]

theorem slot?_append {built more : List (Text × Grammar)} {id : Text} {g : Grammar}
    (found : slot? ⟨built⟩ id = some g) : slot? ⟨built ++ more⟩ id = some g := by
  rw [slot?] at found ⊢
  rw [List.lookup_append, found, Option.some_or]

/-- Whatever a cache is asked for in turn, each answer is the grammar that is built for the language asked for, and reads
every line as the language does. As many grammars are built as different languages were asked for. A request for a
language that was asked for before changes nothing, and any other adds the grammar of its language behind those that were
built, each of which stays what it is. -/
theorem answers_as_built (rs : List Request) (known : ∀ l, .language l ∈ rs → l ∈ Language.known) :
    (empty.answers rs).1 = rs.map (fun r => Grammar.ofLanguage r.wanted) ∧
      List.Forall₂ (fun (g : Grammar) r => ∀ line, g.parse? line = r.wanted.parse? line) (empty.answers rs).1 rs ∧
      (empty.answers rs).2.builtCount = (identifiers rs).toFinset.card ∧
      ∀ before r later, rs = before ++ r :: later →
        let cache := (empty.answers before).2
        let next := (empty.answers (before ++ [r])).2
        (r.wanted.id ∈ identifiers before → next = cache) ∧
          (r.wanted.id ∉ identifiers before →
            next.built = cache.built ++ [(r.wanted.id, Grammar.ofLanguage r.wanted)]) ∧
          cache.builtCount ≤ next.builtCount ∧
          ∀ id g, cache.slot? id = some g → next.slot? id = some g := by
  have wanted : ∀ r ∈ rs, r.wanted ∈ Language.known := fun r mem =>
    Request.wanted_known fun l same => known l (same ▸ mem)
  obtain ⟨grammars, holds⟩ := holds_empty.answers wanted
  refine ⟨grammars, ?_, holds.builtCount, ?_⟩
  · rw [grammars, List.forall₂_map_left_iff, List.forall₂_same]
    exact fun _ _ _ => rfl
  · rintro before r later rfl cache next
    obtain ⟨earlier, others⟩ := List.forall_mem_append.mp wanted
    have here : r.wanted ∈ Language.known := (List.forall_mem_cons.mp others).1
    have so_far : cache.Holds (identifiers before) := (holds_empty.answers earlier).2
    have step : next = (cache.get r.wanted).2 := by
      rw [← answer_eq_get]
      exact congrArg Prod.snd (answers_append empty before [r])
    by_cases asked : r.wanted.id ∈ identifiers before
    · rw [so_far.get_of_asked here asked] at step
      rw [step]
      exact ⟨fun _ => rfl, fun fresh => absurd asked fresh, Nat.le_refl _, fun _ _ => id⟩
    · rw [so_far.get_of_fresh here asked] at step
      rw [step]
      refine ⟨fun before => absurd before asked, fun _ => rfl, ?_, fun id g => slot?_append⟩
      rw [builtCount, builtCount, List.length_append]
      exact Nat.le_add_right _ _

/-- Two spellings of one extension, its language by name, an extension without an entry, and the generic language. -/
theorem answers_as_built_twice :
    let python : Language := Language.ofExtension "py".toList
    let rs : List Request := [.extension "py".toList, .extension ".PYI".toList, .language python,
      .extension "zzz".toList, .language Language.generic]
    (∀ l, .language l ∈ rs → l ∈ Language.known) ∧ (empty.answers rs).2.builtCount = 2 ∧
      (empty.answers rs).1.map (·.language) = [python, python, python, Language.generic, Language.generic] := by
  intro python rs
  have known : ∀ l, .language l ∈ rs → l ∈ Language.known := by
    simp only [rs, List.mem_cons, reduceCtorEq, Request.language.injEq, false_or, List.not_mem_nil, or_false]
    rintro l (rfl | rfl)
    · exact Language.ofExtension_mem _
    · exact List.mem_cons_self
  obtain ⟨grammars, -, count, -⟩ := answers_as_built rs known
  refine ⟨known, count.trans (by decide +kernel), ?_⟩
  rw [grammars]
  decide +kernel

end GrammarCache
end TodoLedger
