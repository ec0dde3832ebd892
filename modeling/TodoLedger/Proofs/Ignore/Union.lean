import TodoLedger.Proofs.Ignore.Entries

/-! Ignore entries together. A list of entries ignores what one of them ignores. So neither the order of the entries
counts nor how often one stands there, and more entries ignore no less. -/

namespace TodoLedger

namespace IgnoreRules

variable {ignoreFile path : Text} {entries others : List Text} {build : Glob.SetBuilder} {rules left right : IgnoreRules}

/-- Whether an entry has a pattern that matches a path. -/
def EntryMatches (entry path : Text) : Prop :=
  ∃ ps, patternsOf entry = .ok ps ∧ ps.any fun p => p.isMatch (Path.forwardSlashes path)

/-- What a list of entries matches one of them matches. -/
theorem matched_iff (compiled : ofEntries ignoreFile entries build = .ok rules) :
    rules.matched path = true ↔ ∃ entry ∈ entries, EntryMatches entry path := by
  obtain ⟨-, groups, all, patterns⟩ := ofEntries_of_ok compiled
  obtain ⟨read, come⟩ := mapM_patternsOf all
  rw [matched, patterns, List.any_flatten, List.any_eq_true]
  constructor
  · rintro ⟨ps, mem, hit⟩
    obtain ⟨entry, mem, eq⟩ := come ps mem
    exact ⟨entry, mem, ps, eq, hit⟩
  · rintro ⟨entry, mem, ps, eq, hit⟩
    obtain ⟨ps', mem', eq'⟩ := read entry mem
    cases eq.symm.trans eq'
    exact ⟨ps, mem', hit⟩

theorem isIgnored_iff_of_compiled (compiled : ofEntries ignoreFile entries build = .ok rules) :
    rules.isIgnored path = true ↔ path.takeWhile (· != '/') = ".git".toList ∨ path = ignoreFile ∨
      ∃ entry ∈ entries, EntryMatches entry path := by
  rw [isIgnored_iff, matched_iff compiled, (ofEntries_of_ok compiled).1]

/-! ### More entries -/

theorem exists_ofEntries_of_subset (compiled : ofEntries ignoreFile entries build = .ok rules)
    (subset : others ⊆ entries) :
    (∃ fewer, ofEntries ignoreFile others build = .ok fewer) ∨ ∃ message, Unbuilt build others message :=
  exists_ofEntries_of_read ignoreFile build fun _ mem => (exists_ofEntries_iff.mp ⟨rules, compiled⟩).1 _ (subset mem)

/-- Entries that come to rules apart can be read together. -/
theorem exists_ofEntries_append (compiled : ofEntries ignoreFile entries build = .ok left)
    (compiled' : ofEntries ignoreFile others build = .ok right) :
    (∃ both, ofEntries ignoreFile (entries ++ others) build = .ok both) ∨
      ∃ message, Unbuilt build (entries ++ others) message :=
  exists_ofEntries_of_read ignoreFile build (List.forall_mem_append.mpr
    ⟨(exists_ofEntries_iff.mp ⟨left, compiled⟩).1, (exists_ofEntries_iff.mp ⟨right, compiled'⟩).1⟩)

theorem isIgnored_of_subset (compiled : ofEntries ignoreFile entries build = .ok left)
    (compiled' : ofEntries ignoreFile others build = .ok right) (subset : entries ⊆ others)
    (ignored : left.isIgnored path = true) : right.isIgnored path = true := by
  rw [isIgnored_iff_of_compiled compiled] at ignored
  rw [isIgnored_iff_of_compiled compiled']
  exact ignored.imp_right (Or.imp_right fun ⟨entry, mem, hit⟩ => ⟨entry, subset mem, hit⟩)

theorem isIgnored_append (compiled : ofEntries ignoreFile entries build = .ok left)
    (compiled' : ofEntries ignoreFile others build = .ok right)
    (both : ofEntries ignoreFile (entries ++ others) build = .ok rules) :
    rules.isIgnored path = true ↔ left.isIgnored path = true ∨ right.isIgnored path = true := by
  rw [isIgnored_iff_of_compiled compiled, isIgnored_iff_of_compiled compiled', isIgnored_iff_of_compiled both]
  simp only [List.mem_append, or_and_right, exists_or]
  -- what is ignored under every list of entries stands on both sides
  exact (or_congr_right or_or_distrib_left).trans or_or_distrib_left

end IgnoreRules
end TodoLedger
