import TodoLedger.Disk.Survey
import TodoLedger.Proofs.Ignore.Entries
import TodoLedger.Proofs.Path

/-! Walks under ignore rules. A walk that leaves out what the rules ignore, with all below it, finds the files on the way
to which nothing is ignored. Where the rules are closed downward, only the files' own paths have to be looked at. -/

namespace TodoLedger

/-- The names that lead to the files in a directory, in the order of a walk that leaves out nothing. -/
def Forest.walk : Forest → List (List Text)
  | nil => []
  | file name more => [name] :: walk more
  | fault _ more => walk more
  | directory name inside more => (walk inside).map (name :: ·) ++ walk more

/-- The names that lead to the files at a root and below it. -/
def Survey.walk : Survey → List (List Text)
  | fault _ => []
  | file => [[]]
  | directory inside => inside.walk

namespace IgnoreRules

/-- Whether nothing is ignored on the way from a path through names. -/
def admits (rules : IgnoreRules) (below : Text) : List Text → Bool
  | [] => true
  | name :: names => !rules.isIgnored (Path.join below name) && admits rules (Path.join below name) names

variable {rules : IgnoreRules} {below path root ignoreFile : Text} {names front back : List Text} {entries : List Text}

theorem admits_iff :
    rules.admits below names = true ↔ ∀ part ≠ [], part <+: names → rules.isIgnored (Path.descend below part) = false := by
  induction names generalizing below with
  | nil =>
    refine iff_of_true rfl fun part some pre => ?_
    exact absurd (List.prefix_nil.mp pre) some
  | cons name names ih =>
    rw [admits, Bool.and_eq_true, Bool.not_eq_true', ih]
    constructor
    · rintro ⟨first, rest⟩ part some pre
      obtain empty | ⟨part, rfl, inner⟩ := List.prefix_cons_iff.mp pre
      · exact absurd empty some
      · by_cases last : part = []
        · rw [last]
          exact first
        · exact rest part last inner
    · intro all
      refine ⟨all [name] (List.cons_ne_nil _ _) ⟨names, rfl⟩, fun part _ pre => ?_⟩
      exact all (name :: part) (List.cons_ne_nil _ _) (List.cons_prefix_cons.mpr ⟨rfl, pre⟩)

theorem admits_of_isIgnored {more : IgnoreRules} (ignored : ∀ p, rules.isIgnored p = true → more.isIgnored p = true)
    (admitted : more.admits below names = true) : rules.admits below names = true := by
  rw [admits_iff] at admitted ⊢
  intro part some pre
  have kept := admitted part some pre
  rw [← Bool.not_eq_true] at kept ⊢
  exact mt (ignored _) kept

end IgnoreRules

/-- A pruned walk finds the files on the way to which nothing is ignored. -/
theorem Forest.files_eq (rules : IgnoreRules) (path below : Text) (f : Forest) :
    f.files rules path below = (f.walk.filter (rules.admits below)).map (Path.descend path) := by
  induction f generalizing path below with
  | nil => rfl
  | file name more ih =>
    rw [files, walk, List.filter_cons]
    simp only [IgnoreRules.admits, Bool.and_true, ih]
    cases rules.isIgnored (Path.join below name) <;> rfl
  | fault f more ih => exact ih path below
  | directory name inside more inner ih =>
    rw [files, walk, List.filter_append, List.map_append, List.filter_map, List.map_map, ← ih path below]
    cases ignored : rules.isIgnored (Path.join below name) with
    | true =>
      have none : (rules.admits below ∘ fun names => name :: names) = fun _ => false := by
        funext names
        simp [IgnoreRules.admits, ignored]
      simp [none]
    | false =>
      have same : (rules.admits below ∘ fun names => name :: names) = rules.admits (Path.join below name) := by
        funext names
        simp [IgnoreRules.admits, ignored]
      rw [same, inner]
      rfl

/-- The root itself is not looked at. -/
theorem Survey.files_eq (rules : IgnoreRules) (root : Text) (s : Survey) :
    s.files rules root = (s.walk.filter (rules.admits [])).map (Path.descend root) := by
  cases s with
  | fault f => rfl
  | file => rfl
  | directory inside => exact inside.files_eq rules root []

namespace IgnoreRules

variable {rules : IgnoreRules} {ignoreFile : Text} {entries names front back : List Text} {build : Glob.SetBuilder}

/-- Below an ignored path all is ignored, unless the path is that of the ignore file. -/
theorem isIgnored_below (compiled : ofEntries ignoreFile entries build = .ok rules) (hf : ∀ name ∈ front, Path.IsName name)
    (hb : ∀ name ∈ back, Path.IsName name) (some : front ≠ []) (other : Path.descend [] front ≠ ignoreFile)
    (ignored : rules.isIgnored (Path.descend [] front) = true) :
    rules.isIgnored (Path.descend [] (front ++ back)) = true := by
  by_cases last : back = []
  · rw [last, List.append_nil]
    exact ignored
  have all : ∀ name ∈ front ++ back, Path.IsName name := fun name mem => (List.mem_append.mp mem).elim (hf name) (hb name)
  obtain ⟨rest, below⟩ := Path.descend_below hf hb some last []
  rw [isIgnored_iff] at ignored ⊢
  rcases ignored with git | file | matched
  · -- what is below begins with the same name
    rw [Path.takeWhile_descend hf some] at git
    rw [Path.takeWhile_descend all (List.append_ne_nil_of_left_ne_nil some _)]
    cases front with
    | nil => exact absurd rfl some
    | cons name front => exact Or.inl git
  · rw [(ofEntries_of_ok compiled).1] at file
    exact absurd file other
  · rw [below]
    exact Or.inr (Or.inr (matched_below compiled matched rest))

/-- Where no directory on the way has the name of the ignore file, nothing on the way is ignored if what it leads to is
not. -/
theorem admits_iff_own (compiled : ofEntries ignoreFile entries build = .ok rules) (h : ∀ name ∈ names, Path.IsName name)
    (other : ∀ front back, front ≠ [] → back ≠ [] → names = front ++ back → Path.descend [] front ≠ ignoreFile) :
    rules.admits [] names = true ↔ names = [] ∨ rules.isIgnored (Path.descend [] names) = false := by
  rw [admits_iff]
  constructor
  · intro all
    by_cases empty : names = []
    · exact Or.inl empty
    · exact Or.inr (all names empty List.prefix_rfl)
  · rintro own part some ⟨rest, rfl⟩
    have own := own.resolve_left (List.append_ne_nil_of_left_ne_nil some _)
    by_cases last : rest = []
    · rw [last, List.append_nil] at own
      exact own
    · refine Bool.eq_false_iff.mpr fun ignored => ?_
      obtain ⟨hf, hb⟩ := List.forall_mem_append.mp h
      exact absurd (isIgnored_below compiled hf hb some (other part rest some last rfl) ignored) (by simp [own])

end IgnoreRules
end TodoLedger
