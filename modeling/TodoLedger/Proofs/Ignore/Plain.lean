import TodoLedger.Proofs.Glob.Literal
import TodoLedger.Proofs.Ignore.Entries

/-! Entries that are plain paths. Without wildcards an entry leaves out the path that it names with all below that path,
and nothing else. It names the same path with `./` or a slash before it, with a slash after it, and with backslashes. -/

namespace TodoLedger.IgnoreRules

open Glob

variable {entry ignoreFile p t x : Text} {entries others : List Text} {build : SetBuilder} {rules : IgnoreRules}

/-! ### Backslashes -/

theorem forwardSlashes_eq_map (t : Text) : Path.forwardSlashes t = t.map fun c => if c = '\\' then '/' else c := by
  rw [Path.forwardSlashes, Text.substitute, List.map_eq_flatMap]
  refine List.flatMap_congr fun c _ => ?_
  split
  · rfl
  · rfl

theorem isBlank_forwardSlash : (Text.isBlank ∘ fun c : Char => if c = '\\' then '/' else c) = Text.isBlank := by
  funext c
  rw [Function.comp_apply]
  split
  · rename_i backslash
    rw [backslash]
    rfl
  · rfl

theorem trim_forwardSlashes (t : Text) : Text.trim (Path.forwardSlashes t) = Path.forwardSlashes (Text.trim t) := by
  simp only [forwardSlashes_eq_map, Text.trim, Text.trimEnd, Text.trimStart, Text.dropEndWhile, List.dropWhile_map,
    ← List.map_reverse, isBlank_forwardSlash]

/-- In an entry a backslash is as good as a slash. -/
theorem normalize_forwardSlashes (t : Text) : normalize (Path.forwardSlashes t) = normalize t := by
  rw [normalize, normalize, trim_forwardSlashes, forwardSlashes_of_not_mem (not_mem_forwardSlashes _)]

/-! ### Entries that are normal already -/

/-- An entry that has nothing to lose at its ends, and no backslash. -/
structure Normal (t : Text) : Prop where
  tight : Text.Tight t
  slashed : '\\' ∉ t
  undotted : ¬['.', '/'] <+: t
  head : t.head? ≠ some '/'
  last : t.getLast? ≠ some '/'

theorem dropWhile_slash_iff : t.dropWhile (· == '/') = t ↔ t.head? ≠ some '/' := by
  rw [List.dropWhile_eq_self_iff]
  cases t with
  | nil => exact iff_of_true nofun nofun
  | cons c t => simp

theorem dropEndWhile_slash_iff : Text.dropEndWhile (· == '/') t = t ↔ t.getLast? ≠ some '/' := by
  rw [Text.dropEndWhile, List.reverse_eq_iff, dropWhile_slash_iff, List.head?_reverse]

theorem length_forwardSlashes (t : Text) : (Path.forwardSlashes t).length = t.length := by
  rw [forwardSlashes_eq_map, List.length_map]

/-- Normalization leaves the normal entries as they are, and no others: each of its steps can only make an entry
shorter. -/
theorem normalize_eq_self_iff : normalize t = t ↔ Normal t := by
  constructor
  · intro same
    let e := Path.forwardSlashes (Text.trim t)
    let front := Text.trimStartOf ['.', '/'] e
    obtain ⟨lead, trail, -, -, around⟩ := Text.exists_blanks_around t
    obtain ⟨ends, -, after⟩ := Text.exists_dropped_after (· == '/') (front.dropWhile (· == '/'))
    obtain ⟨-, -, undotted⟩ := Text.exists_copies_trimStartOf (by decide : ['.', '/'] ≠ []) e
    have trimmed : Text.trim t <:+: t := ⟨lead, trail, by rw [List.append_assoc, ← around]⟩
    have length : e.length = (Text.trim t).length := length_forwardSlashes _
    have copies : front <:+ e := Text.dropCopies_suffix _ _ e
    have slashes : front.dropWhile (· == '/') <:+ front := List.dropWhile_suffix _
    have left : t <+: front.dropWhile (· == '/') := ⟨ends, (after.trans (congrArg (· ++ ends) same)).symm⟩
    have lengths := And.intro trimmed.length_le (And.intro copies.length_le (And.intro slashes.length_le left.length_le))
    have trim_eq : Text.trim t = t := trimmed.eq_of_length (by omega)
    have left_eq : t = front.dropWhile (· == '/') := left.eq_of_length (by omega)
    have front_eq : t = front := left_eq.trans (slashes.eq_of_length (by omega))
    have e_eq : t = e := front_eq.trans (copies.eq_of_length (by omega))
    exact {
      tight := trim_eq ▸ Text.tight_trim t
      slashed := e_eq ▸ not_mem_forwardSlashes _
      undotted := front_eq ▸ undotted
      head := dropWhile_slash_iff.mp ((congrArg _ front_eq).trans left_eq.symm)
      last := dropEndWhile_slash_iff.mp ((congrArg _ left_eq).trans same) }
  · intro normal
    rw [normalize, normal.tight.trim_eq, forwardSlashes_of_not_mem normal.slashed,
      Text.trimStartOf, Text.dropCopies_of_not_prefix normal.undotted, dropWhile_slash_iff.mpr normal.head,
      dropEndWhile_slash_iff.mpr normal.last]

/-! ### Spellings -/

theorem normalize_of_tight (tight : Text.Tight t) (slashed : '\\' ∉ t) :
    normalize t = Text.dropEndWhile (· == '/') ((Text.trimStartOf ['.', '/'] t).dropWhile (· == '/')) := by
  rw [normalize, tight.trim_eq, forwardSlashes_of_not_mem slashed]

namespace Normal

theorem normalize_dotted (normal : Normal x) : normalize (['.', '/'] ++ x) = x := by
  have tight : Text.Tight (['.', '/'] ++ x) := Text.Tight.append (by decide) normal.tight
  have slashed : '\\' ∉ ['.', '/'] ++ x := by simpa using normal.slashed
  rw [normalize_of_tight tight slashed, Text.trimStartOf_append_of_not_prefix (by decide) normal.undotted,
    dropWhile_slash_iff.mpr normal.head, dropEndWhile_slash_iff.mpr normal.last]

theorem normalize_rooted (normal : Normal x) : normalize ('/' :: x) = x := by
  have tight : Text.Tight ('/' :: x) := Text.Tight.append (t := ['/']) (by decide) normal.tight
  have slashed : '\\' ∉ '/' :: x := by simpa using normal.slashed
  have undotted : ¬['.', '/'] <+: '/' :: x := by simp
  have front : ('/' :: x).dropWhile (· == '/') = x.dropWhile (· == '/') := List.dropWhile_cons_of_pos rfl
  rw [normalize_of_tight tight slashed, Text.trimStartOf, Text.dropCopies_of_not_prefix undotted, front,
    dropWhile_slash_iff.mpr normal.head, dropEndWhile_slash_iff.mpr normal.last]

/-- With a slash after it `.` would be a front that is taken away. -/
theorem normalize_closed (normal : Normal x) (named : x ≠ ['.']) : normalize (x ++ ['/']) = x := by
  cases x with
  | nil => exact normal.normalize_rooted
  | cons c x =>
    have tight : Text.Tight (c :: x ++ ['/']) := normal.tight.append (by decide)
    have slashed : '\\' ∉ c :: x ++ ['/'] := by simpa using normal.slashed
    have undotted : ¬['.', '/'] <+: c :: x ++ ['/'] := by
      intro front
      obtain ⟨rfl, front⟩ := List.cons_prefix_cons.mp front
      cases x with
      | nil => exact named rfl
      | cons d x => exact normal.undotted (by simpa using front)
    have back : Text.dropEndWhile (· == '/') (c :: x ++ ['/']) = Text.dropEndWhile (· == '/') (c :: x) := by
      rw [Text.dropEndWhile, List.reverse_append]
      rfl
    have front : (c :: x ++ ['/']).dropWhile (· == '/') = c :: x ++ ['/'] := dropWhile_slash_iff.mpr normal.head
    rw [normalize_of_tight tight slashed, Text.trimStartOf, Text.dropCopies_of_not_prefix undotted, front, back,
      dropEndWhile_slash_iff.mpr normal.last]

end Normal

/-! ### The rules of an entry -/

/-- What the patterns of an entry with a normal form are. -/
def Spells (normal : Text) (ps : List Pattern) : Prop :=
  (normal = [] ∧ ps = []) ∨ (normal ≠ [] ∧ ∃ itself below, Pattern.read normal = .ok itself ∧
    Pattern.read (normal ++ "/**".toList) = .ok below ∧ ps = [itself, below])

theorem patternsOf_eq_ok_iff {ps : List Pattern} : patternsOf entry = .ok ps ↔ Spells (normalize entry) ps := by
  rw [patternsOf, Spells]
  cases normalize entry with
  | nil => simp [eq_comm]
  | cons c e =>
    dsimp only
    constructor
    · intro read
      cases itself : Pattern.read (c :: e) with
      | error f =>
        rw [itself] at read
        cases read
      | ok g =>
        cases below : Pattern.read (c :: e ++ "/**".toList) with
        | error f =>
          rw [itself, below] at read
          cases read
        | ok g' =>
          rw [itself, below] at read
          cases read
          exact Or.inr ⟨List.cons_ne_nil c e, g, g', rfl, rfl, rfl⟩
    · rintro (⟨empty, -⟩ | ⟨-, g, g', itself, below, rfl⟩)
      · exact absurd empty (List.cons_ne_nil c e)
      · rw [itself, below]
        rfl

theorem mapM_patternsOf_eq_ok_iff {groups : List (List Pattern)} :
    entries.mapM patternsOf = .ok groups ↔ List.Forall₂ Spells (entries.map normalize) groups := by
  simp only [mapM_eq_ok_iff, patternsOf_eq_ok_iff, List.forall₂_map_left_iff]

/-- What entries come to depends on their normal forms only; what is said of one that cannot be read does not. -/
theorem ofEntries_congr (same : entries.map normalize = others.map normalize)
    (compiled : ofEntries ignoreFile entries build = .ok rules) : ofEntries ignoreFile others build = .ok rules := by
  obtain ⟨-, groups, read, -⟩ := ofEntries_of_ok compiled
  have read' : others.mapM patternsOf = .ok groups := by
    rwa [mapM_patternsOf_eq_ok_iff, ← same, ← mapM_patternsOf_eq_ok_iff]
  rw [ofEntries, read] at compiled
  rw [ofEntries, read']
  exact compiled

/-- Without wildcards the patterns of an entry are its normal form and all below it. -/
theorem patternsOf_of_tame (some : normalize entry ≠ []) (tame : ∀ c ∈ normalize entry, c ∉ wildcards) :
    patternsOf entry = .ok [⟨normalize entry, (normalize entry).map .literal⟩,
      ⟨normalize entry ++ "/**".toList, (normalize entry).map .literal ++ [.everythingBelow]⟩] := by
  obtain ⟨front, back, split, -, -⟩ := exists_normalize_between entry
  have slashed : '\\' ∉ normalize entry := fun mem =>
    not_mem_forwardSlashes entry (split ▸ List.mem_append_left _ (List.mem_append_right _ mem))
  obtain ⟨itself, below⟩ := Pattern.readTokens_of_tame tame slashed
  exact patternsOf_eq_ok_iff.mpr (Or.inr ⟨some, _, _, Pattern.read_eq_ok_iff.mpr ⟨rfl, itself⟩,
    Pattern.read_eq_ok_iff.mpr ⟨rfl, below⟩, rfl⟩)

theorem exists_rules_of_tame (takes : build.TakesPlain) (some : normalize entry ≠ [])
    (tame : ∀ c ∈ normalize entry, c ∉ wildcards) (ignoreFile : Text) :
    ∃ rules, ofEntries ignoreFile [entry] build = .ok rules ∧ rules.ignoreFile = ignoreFile ∧
      ∀ p, rules.matched p = true ↔
        Path.forwardSlashes p = normalize entry ∨ normalize entry ++ ['/'] <+: Path.forwardSlashes p := by
  let itself : Pattern := ⟨normalize entry, (normalize entry).map .literal⟩
  let below : Pattern := ⟨normalize entry ++ "/**".toList, (normalize entry).map .literal ++ [.everythingBelow]⟩
  have built : build [itself, below] = .ok () := by
    refine takes _ (List.forall_mem_cons.mpr ⟨⟨normalize entry, Or.inl rfl⟩, ?_⟩)
    exact List.forall_mem_singleton.mpr ⟨normalize entry, Or.inr rfl⟩
  have read : [entry].mapM patternsOf = .ok [[itself, below]] := by
    rw [List.mapM_cons, patternsOf_of_tame some tame]
    rfl
  have compiled : ofEntries ignoreFile [entry] build = .ok ⟨[itself, below], ignoreFile, 1⟩ :=
    ofEntries_of_built read built ignoreFile
  refine ⟨_, compiled, rfl, fun p => ?_⟩
  rw [matched, List.any_cons, List.any_cons, List.any_nil, Bool.or_false, Bool.or_eq_true]
  exact or_congr (Pattern.isMatch_literals rfl) (Pattern.isMatch_below_literals rfl)

/-- An entry without wildcards comes to rules where sets of plain patterns can be made. It leaves out the path that it names
and what is below that path, not a path that only begins with the same characters. A path that is normal may stand in it
with `./` or a slash before it, with backslashes, and with a slash after it, unless it is `.`, of which nothing would be
left. -/
theorem plain_entry_ignores_subtree :
    (∀ (build : SetBuilder) (ignoreFile entry : Text), build.TakesPlain → normalize entry ≠ [] →
      (∀ c ∈ normalize entry, c ∉ wildcards) → ∃ rules, ofEntries ignoreFile [entry] build = .ok rules ∧
        ∀ p : Text, p.takeWhile (· != '/') ≠ ".git".toList → p ≠ ignoreFile →
          (rules.isIgnored p = true ↔
            Path.forwardSlashes p = normalize entry ∨ normalize entry ++ ['/'] <+: Path.forwardSlashes p) ∧
          ('\\' ∉ p → (rules.isIgnored p = true ↔ p = normalize entry ∨ normalize entry ++ ['/'] <+: p) ∧
            ∀ more, p = normalize entry ++ more → more ≠ [] → more.head? ≠ some '/' → rules.isIgnored p = false)) ∧
    ∀ (build : SetBuilder) (ignoreFile x : Text), normalize x = x → ∀ entry : Text,
      entry = ['.', '/'] ++ x ∨ entry = '/' :: x ∨ (entry = x ++ ['/'] ∧ x ≠ ['.']) ∨ Path.forwardSlashes entry = x →
        ∀ rules, ofEntries ignoreFile [entry] build = .ok rules ↔ ofEntries ignoreFile [x] build = .ok rules := by
  constructor
  · intro build ignoreFile entry takes some tame
    obtain ⟨rules, compiled, rfl, matched⟩ := exists_rules_of_tame takes some tame ignoreFile
    refine ⟨rules, compiled, fun p git file => ?_⟩
    have ignored : rules.isIgnored p = true ↔
        Path.forwardSlashes p = normalize entry ∨ normalize entry ++ ['/'] <+: Path.forwardSlashes p := by
      rw [isIgnored_iff, or_iff_right git, or_iff_right file, matched]
    refine ⟨ignored, fun slashed => ?_⟩
    rw [forwardSlashes_of_not_mem slashed] at ignored
    refine ⟨ignored, ?_⟩
    rintro more rfl longer apart
    rw [← Bool.not_eq_true, ignored]
    rintro (same | ⟨rest, whole⟩)
    · exact longer (List.append_right_eq_self.mp same)
    · rw [List.append_assoc, List.append_cancel_left_eq] at whole
      exact apart (whole ▸ rfl)
  · intro build ignoreFile x same entry spelled rules
    have normal := normalize_eq_self_iff.mp same
    have form : normalize entry = normalize x := by
      rw [same]
      obtain rfl | rfl | ⟨rfl, named⟩ | slashes := spelled
      · exact normal.normalize_dotted
      · exact normal.normalize_rooted
      · exact normal.normalize_closed named
      · rw [← normalize_forwardSlashes, slashes, same]
    exact ⟨ofEntries_congr (by simp [form]), ofEntries_congr (by simp [form])⟩

theorem plain_entry_ignores_vendor_subtree :
    (∃ rules, ofEntries ".todoignore".toList [" .\\vendor/lib/ ".toList] = .ok rules ∧
      rules.isIgnored "vendor/lib/x.c".toList = true ∧ rules.isIgnored "vendor/library".toList = false) ∧
    ∀ rules, ofEntries ".todoignore".toList ["a\\b".toList] = .ok rules ↔
      ofEntries ".todoignore".toList ["a/b".toList] = .ok rules := by
  have form : normalize " .\\vendor/lib/ ".toList = "vendor/lib".toList := by decide +kernel
  have tame : ∀ c ∈ "vendor/lib".toList, c ∉ wildcards := by simp [wildcards]
  obtain ⟨subtree, spellings⟩ := plain_entry_ignores_subtree
  constructor
  · obtain ⟨rules, compiled, ignored⟩ := subtree .unlimited ".todoignore".toList " .\\vendor/lib/ ".toList
      (fun _ _ => rfl) (by rw [form]; decide) (form ▸ tame)
    rw [form] at ignored
    refine ⟨rules, compiled, ?_, ?_⟩
    · exact ((ignored "vendor/lib/x.c".toList (by decide) (by decide)).2 (by decide)).1.mpr (Or.inr ⟨"x.c".toList, rfl⟩)
    · exact ((ignored "vendor/library".toList (by decide) (by decide)).2 (by decide)).2 "rary".toList rfl (by decide)
        (by decide)
  · exact spellings .unlimited ".todoignore".toList "a/b".toList (by decide +kernel) "a\\b".toList
      (Or.inr (Or.inr (Or.inr (by decide))))

/-- The spelling that does not name the same path: normalization leaves `.` as it is, and nothing of `./`. -/
theorem closed_spelling_of_here : normalize ['.'] = ['.'] ∧
    ∃ itself closed, ofEntries ".todoignore".toList [['.']] = .ok itself ∧
      ofEntries ".todoignore".toList [['.'] ++ ['/']] = .ok closed ∧
      itself.entryCount = 1 ∧ closed.entryCount = 0 ∧
      itself.isIgnored ['.'] = true ∧ closed.isIgnored ['.'] = false :=
  ⟨rfl, _, _, rfl, rfl, rfl, rfl, rfl, rfl⟩

end TodoLedger.IgnoreRules
