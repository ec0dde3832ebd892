import Mathlib.Data.List.Forall2
import TodoLedger.Ignore.Rules
import TodoLedger.Proofs.Glob.Reading
import TodoLedger.Proofs.Text.Trim

/-! The rules that ignore entries come to. An entry can be read if its own text can, with all below it or without; and
what its patterns match they match with everything below it. Entries come to rules if each can be read and their
patterns make a set. -/

namespace TodoLedger

namespace IgnoreRules

open Glob

variable {entry ignoreFile p message : Text} {entries : List Text} {build : SetBuilder} {rules : IgnoreRules}

/-! ### The patterns of an entry -/

/-- What the patterns of an entry are, or why there are none. -/
theorem patternsOf_cases (entry : Text) :
    (normalize entry = [] ∧ patternsOf entry = .ok []) ∨
      (∃ itself below, Pattern.read (normalize entry) = .ok itself ∧
        Pattern.read (normalize entry ++ "/**".toList) = .ok below ∧ patternsOf entry = .ok [itself, below] ∧
        Draft.Below itself.tokens below.tokens) ∨
      ∃ cause, Pattern.read (normalize entry) = .error cause ∧ patternsOf entry = .error (.pattern entry cause) := by
  rw [patternsOf]
  cases some : normalize entry with
  | nil => exact Or.inl ⟨rfl, rfl⟩
  | cons c e =>
    cases readable : Pattern.readTokens (c :: e) with
    | error f =>
      have unread := Pattern.read_eq_error readable
      refine Or.inr (Or.inr ⟨_, unread, ?_⟩)
      dsimp only
      rw [unread]
      rfl
    | ok ts =>
      obtain ⟨us, readable', shape⟩ := Pattern.readTokens_below readable
      have read := (Pattern.read_eq_ok_iff (p := ⟨c :: e, ts⟩)).mpr ⟨rfl, readable⟩
      have read' := (Pattern.read_eq_ok_iff (p := ⟨c :: e ++ "/**".toList, us⟩)).mpr ⟨rfl, readable'⟩
      refine Or.inr (Or.inl ⟨_, _, read, read', ?_, shape⟩)
      dsimp only
      rw [read, read']
      rfl

/-- An entry that cannot be read is what its error names. -/
theorem patternsOf_error {e : ScanError} (failed : patternsOf entry = .error e) : ∃ cause, e = .pattern entry cause := by
  obtain ⟨-, eq⟩ | ⟨_, _, -, -, eq, -⟩ | ⟨cause, -, eq⟩ := patternsOf_cases entry
  · cases eq.symm.trans failed
  · cases eq.symm.trans failed
  · cases eq.symm.trans failed
    exact ⟨cause, rfl⟩

theorem exists_patternsOf_iff :
    (∃ ps, patternsOf entry = .ok ps) ↔ normalize entry = [] ∨ ∃ g, Pattern.read (normalize entry) = .ok g := by
  obtain ⟨empty, eq⟩ | ⟨itself, below, read, -, eq, -⟩ | ⟨cause, unread, eq⟩ := patternsOf_cases entry
  · exact iff_of_true ⟨_, eq⟩ (Or.inl empty)
  · exact iff_of_true ⟨_, eq⟩ (Or.inr ⟨_, read⟩)
  · refine iff_of_false (fun ⟨ps, ok⟩ => nomatch eq.symm.trans ok) ?_
    rintro (empty | ⟨g, ok⟩)
    · rw [empty] at unread
      cases unread
    · exact nomatch unread.symm.trans ok

/-! ### The text of an entry -/

theorem not_mem_forwardSlashes (t : Text) : '\\' ∉ Path.forwardSlashes t := by
  intro mem
  obtain ⟨c, -, here⟩ := List.mem_flatMap.mp mem
  split at here
  · exact absurd (List.mem_singleton.mp here) (by decide)
  · rename_i other
    exact other (List.mem_singleton.mp here).symm

theorem forwardSlashes_of_not_mem {t : Text} (plain : '\\' ∉ t) : Path.forwardSlashes t = t := by
  have same : ∀ c ∈ t, (if c = '\\' then ['/'] else [c]) = [c] := by
    intro c mem
    have other : c ≠ '\\' := fun backslash => plain (backslash ▸ mem)
    exact if_neg other
  rw [Path.forwardSlashes, Text.substitute, List.flatMap_congr same, List.flatMap_singleton']

/-- Blanks stay as they are, and mean nothing in a pattern. -/
theorem forwardSlashes_of_allBlank {b : Text} (h : Text.allBlank b = true) :
    Path.forwardSlashes b = b ∧ ∀ c ∈ b, c ∉ Draft.special ∧ c ≠ ']' := by
  have ordinary : ∀ c ∈ b, c ∉ Draft.special ∧ c ≠ ']' := fun c mem =>
    Text.of_isBlank (P := fun c => c ∉ Draft.special ∧ c ≠ ']') (by decide +kernel) (Text.isBlank_of_mem h mem)
  exact ⟨forwardSlashes_of_not_mem fun mem => (ordinary _ mem).1 (by decide), ordinary⟩

/-- What an entry loses at its ends means nothing in a pattern. -/
theorem exists_normalize_between (entry : Text) : ∃ front back,
    Path.forwardSlashes entry = front ++ normalize entry ++ back ∧ (∀ c ∈ front, c ∉ Draft.special ∧ c ≠ ']') ∧
      ∀ c ∈ back, c ∉ Draft.special ∧ c ≠ ']' := by
  let e := Path.forwardSlashes (Text.trim entry)
  obtain ⟨lead, trail, hl, ht, around⟩ := Text.exists_blanks_around entry
  obtain ⟨dots, hd, copies⟩ := Text.exists_copies_before ['.', '/'] e.length e
  obtain ⟨slashes, hs, before⟩ := Text.exists_dropped_before (· == '/') (Text.trimStartOf ['.', '/'] e)
  obtain ⟨ends, he, after⟩ :=
    Text.exists_dropped_after (· == '/') ((Text.trimStartOf ['.', '/'] e).dropWhile (· == '/'))
  have split : e = dots ++ (slashes ++ (normalize entry ++ ends)) :=
    copies.trans (congrArg (dots ++ ·) (before.trans (congrArg (slashes ++ ·) after)))
  have slash : ∀ c : Char, (c == '/') = true → c ∉ Draft.special ∧ c ≠ ']' := fun c same => by
    rw [beq_iff_eq.mp same]
    decide
  obtain ⟨lead_eq, hl⟩ := forwardSlashes_of_allBlank hl
  obtain ⟨trail_eq, ht⟩ := forwardSlashes_of_allBlank ht
  refine ⟨lead ++ (dots ++ slashes), ends ++ trail, ?_, ?_, ?_⟩
  · have parts : Path.forwardSlashes entry = Path.forwardSlashes lead ++ (e ++ Path.forwardSlashes trail) := by
      conv => lhs; rw [around]
      simp only [Path.forwardSlashes, Text.substitute, List.flatMap_append, e]
    rw [parts, lead_eq, trail_eq, split]
    simp only [List.append_assoc]
  · refine List.forall_mem_append.mpr ⟨hl, List.forall_mem_append.mpr ⟨fun c mem => ?_, ?_⟩⟩
    · obtain rfl | rfl : c = '.' ∨ c = '/' := by simpa using hd c mem
      · decide
      · decide
    · exact fun c mem => slash c (List.all_eq_true.mp hs c mem)
  · exact List.forall_mem_append.mpr ⟨fun c mem => slash c (List.all_eq_true.mp he c mem), ht⟩

/-- An entry can be read if its text with forward slashes can. -/
theorem exists_patternsOf_iff_slashed :
    (∃ ps, patternsOf entry = .ok ps) ↔ ∃ g, Pattern.read (Path.forwardSlashes entry) = .ok g := by
  obtain ⟨front, back, split, hf, hb⟩ := exists_normalize_between entry
  have plain : '\\' ∉ normalize entry := fun mem =>
    not_mem_forwardSlashes entry (split ▸ List.mem_append_left _ (List.mem_append_right _ mem))
  rw [exists_patternsOf_iff, Pattern.exists_read_iff, Pattern.exists_read_iff, split,
    Pattern.exists_readTokens_surrounded (fun c mem => (hf c mem).1) hb plain]
  refine or_iff_right_of_imp fun empty => ?_
  rw [empty]
  exact ⟨[], rfl⟩

/-! ### The patterns of a list of entries -/

/-- A list is read if each of its members is. -/
theorem mapM_eq_ok_iff {α β ε : Type} {f : α → Except ε β} {xs : List α} {ys : List β} :
    xs.mapM f = .ok ys ↔ List.Forall₂ (fun x y => f x = .ok y) xs ys := by
  induction xs generalizing ys with
  | nil => simp [pure, Except.pure, eq_comm]
  | cons x xs ih =>
    rw [List.mapM_cons, List.forall₂_cons_left_iff]
    simp only [← ih]
    cases first : f x with
    | error e => simp [bind, Except.bind]
    | ok y => cases xs.mapM f <;> simp [bind, Except.bind, pure, Except.pure, eq_comm]

/-- The groups of patterns are those of the entries. -/
theorem mapM_patternsOf {groups : List (List Pattern)} (compiled : entries.mapM patternsOf = .ok groups) :
    (∀ entry ∈ entries, ∃ ps ∈ groups, patternsOf entry = .ok ps) ∧
      ∀ ps ∈ groups, ∃ entry ∈ entries, patternsOf entry = .ok ps := by
  have each := mapM_eq_ok_iff.mp compiled
  clear compiled
  induction each with
  | nil => exact ⟨nofun, nofun⟩
  | cons first _ ih =>
    obtain ⟨read, come⟩ := ih
    constructor
    · refine List.forall_mem_cons.mpr ⟨⟨_, List.mem_cons_self, first⟩, fun entry mem => ?_⟩
      obtain ⟨ps, mem, read⟩ := read entry mem
      exact ⟨ps, List.mem_cons_of_mem _ mem, read⟩
    · refine List.forall_mem_cons.mpr ⟨⟨_, List.mem_cons_self, first⟩, fun ps mem => ?_⟩
      obtain ⟨entry, mem, read⟩ := come ps mem
      exact ⟨entry, List.mem_cons_of_mem _ mem, read⟩

/-- The first entry that cannot be read is what fails. -/
theorem mapM_patternsOf_error {e : ScanError} (failed : entries.mapM patternsOf = .error e) :
    ∃ entry ∈ entries, patternsOf entry = .error e := by
  induction entries with
  | nil => cases failed
  | cons entry entries ih =>
    rw [List.mapM_cons] at failed
    cases first : patternsOf entry with
    | error e =>
      rw [first] at failed
      cases failed
      exact ⟨entry, List.mem_cons_self, first⟩
    | ok ps =>
      cases rest : entries.mapM patternsOf with
      | error e =>
        rw [first, rest] at failed
        cases failed
        obtain ⟨entry, mem, failed⟩ := ih rest
        exact ⟨entry, List.mem_cons_of_mem _ mem, failed⟩
      | ok groups =>
        rw [first, rest] at failed
        cases failed

/-- Whether entries can each be read, but their patterns make no set. -/
def Unbuilt (build : SetBuilder) (entries : List Text) (message : Text) : Prop :=
  ∃ groups, entries.mapM patternsOf = .ok groups ∧ build groups.flatten = .error message

theorem ofEntries_of_built {groups : List (List Pattern)} (read : entries.mapM patternsOf = .ok groups)
    (built : build groups.flatten = .ok ()) (ignoreFile : Text) :
    ofEntries ignoreFile entries build =
      .ok ⟨groups.flatten, ignoreFile, (groups.filter fun g => !g.isEmpty).length⟩ := by
  simp only [ofEntries, read, built, Except.mapError, bind, Except.bind]

theorem Unbuilt.ofEntries_eq (unbuilt : Unbuilt build entries message) (ignoreFile : Text) :
    ofEntries ignoreFile entries build = .error (.pattern [] (.unbuilt message)) := by
  obtain ⟨groups, all, failed⟩ := unbuilt
  simp only [ofEntries, all, failed, Except.mapError, bind, Except.bind]

theorem not_unbuilt_unlimited : ¬Unbuilt .unlimited entries message := by
  rintro ⟨_, -, ⟨⟩⟩

/-- What entries come to: rules, or nothing because their patterns make no set or because one cannot be read. -/
theorem ofEntries_cases (ignoreFile : Text) (entries : List Text) (build : SetBuilder) :
    (∃ groups, entries.mapM patternsOf = .ok groups ∧
      ofEntries ignoreFile entries build =
        .ok ⟨groups.flatten, ignoreFile, (groups.filter fun g => !g.isEmpty).length⟩) ∨
    (∃ message, Unbuilt build entries message ∧
      ofEntries ignoreFile entries build = .error (.pattern [] (.unbuilt message))) ∨
    ∃ e, (∃ entry ∈ entries, patternsOf entry = .error e) ∧ ofEntries ignoreFile entries build = .error e := by
  cases all : entries.mapM patternsOf with
  | error e =>
    refine Or.inr (Or.inr ⟨e, mapM_patternsOf_error all, ?_⟩)
    rw [ofEntries, all]
    rfl
  | ok groups =>
    cases built : build groups.flatten with
    | error message =>
      have unbuilt : Unbuilt build entries message := ⟨groups, all, built⟩
      exact Or.inr (Or.inl ⟨message, unbuilt, unbuilt.ofEntries_eq ignoreFile⟩)
    | ok _ => exact Or.inl ⟨groups, rfl, ofEntries_of_built all built ignoreFile⟩

theorem ofEntries_of_ok (compiled : ofEntries ignoreFile entries build = .ok rules) :
    rules.ignoreFile = ignoreFile ∧ ∃ groups, entries.mapM patternsOf = .ok groups ∧ rules.patterns = groups.flatten := by
  obtain ⟨groups, all, eq⟩ | ⟨_, -, eq⟩ | ⟨_, -, eq⟩ := ofEntries_cases ignoreFile entries build
  · cases eq.symm.trans compiled
    exact ⟨rfl, groups, all, rfl⟩
  · cases eq.symm.trans compiled
  · cases eq.symm.trans compiled

/-- Entries that can each be read come to rules, unless their patterns make no set. -/
theorem exists_ofEntries_of_read (ignoreFile : Text) (build : SetBuilder)
    (read : ∀ entry ∈ entries, ∃ ps, patternsOf entry = .ok ps) :
    (∃ rules, ofEntries ignoreFile entries build = .ok rules) ∨ ∃ message, Unbuilt build entries message := by
  obtain ⟨_, -, eq⟩ | ⟨message, unbuilt, -⟩ | ⟨e, ⟨entry, mem, failed⟩, -⟩ := ofEntries_cases ignoreFile entries build
  · exact Or.inl ⟨_, eq⟩
  · exact Or.inr ⟨message, unbuilt⟩
  · obtain ⟨ps, ok⟩ := read entry mem
    cases failed.symm.trans ok

theorem exists_ofEntries_iff : (∃ rules, ofEntries ignoreFile entries build = .ok rules) ↔
    (∀ entry ∈ entries, ∃ ps, patternsOf entry = .ok ps) ∧ ∀ message, ¬Unbuilt build entries message := by
  constructor
  · rintro ⟨rules, compiled⟩
    refine ⟨fun entry mem => ?_, fun message unbuilt => ?_⟩
    · obtain ⟨-, groups, all, -⟩ := ofEntries_of_ok compiled
      obtain ⟨ps, -, read⟩ := (mapM_patternsOf all).1 entry mem
      exact ⟨ps, read⟩
    · cases (unbuilt.ofEntries_eq ignoreFile).symm.trans compiled
  · rintro ⟨each, built⟩
    exact (exists_ofEntries_of_read ignoreFile build each).resolve_right fun ⟨message, unbuilt⟩ => built message unbuilt

/-! ### What is below a matched path -/

/-- Whether a pattern of the rules matches a path. -/
def matched (rules : IgnoreRules) (path : Text) : Bool :=
  rules.patterns.any fun p => p.isMatch (Path.forwardSlashes path)

theorem isIgnored_iff : rules.isIgnored p = true ↔
    p.takeWhile (· != '/') = ".git".toList ∨ p = rules.ignoreFile ∨ rules.matched p = true := by
  rw [isIgnored, matched, Bool.or_eq_true, Bool.or_eq_true, beq_iff_eq, beq_iff_eq, or_assoc]

theorem forwardSlashes_below (p q : Text) :
    Text.utf8 (Path.forwardSlashes (p ++ '/' :: q)) =
      Text.utf8 (Path.forwardSlashes p) ++ slash :: Text.utf8 (Path.forwardSlashes q) := by
  simp only [Path.forwardSlashes, Text.substitute, List.flatMap_append, List.flatMap_cons, Text.utf8]
  rfl

/-- What one of the patterns of an entry matches, one of them matches with everything below it. -/
theorem patternsOf_below {ps : List Pattern} (read : patternsOf entry = .ok ps)
    (matched : ps.any fun g => g.isMatch (Path.forwardSlashes p)) (q : Text) :
    ps.any fun g => g.isMatch (Path.forwardSlashes (p ++ '/' :: q)) := by
  obtain ⟨-, eq⟩ | ⟨itself, below, -, -, eq, shape⟩ | ⟨cause, -, eq⟩ := patternsOf_cases entry
  · cases eq.symm.trans read
    cases matched
  · cases eq.symm.trans read
    simp only [List.any_cons, List.any_nil, Bool.or_false, Bool.or_eq_true, Pattern.isMatch_iff,
      forwardSlashes_below] at matched ⊢
    obtain longer | ⟨same, all | ⟨front, ends⟩⟩ := shape
    · -- the second pattern is the first with all below it
      rcases matched with (all | itself) | (all | below)
      · exact Or.inl (Or.inl all)
      · exact Or.inr (Or.inr (longer ▸ below_of_matched itself _))
      · rw [longer] at all
        have last := congrArg List.getLast? all
        rw [List.getLast?_concat] at last
        cases last
      · rw [longer] at below
        exact Or.inr (Or.inr (longer ▸ below_of_below below _))
    · exact Or.inl (Or.inl all)
    · rw [same, or_self, ends] at matched ⊢
      rcases matched with all | below
      · exact Or.inl all
      · exact Or.inr (below_of_below below _)
  · cases eq.symm.trans read

/-- Rules that entries come to are closed downward. -/
theorem matched_below (compiled : ofEntries ignoreFile entries build = .ok rules) (h : rules.matched p = true) (q : Text) :
    rules.matched (p ++ '/' :: q) = true := by
  obtain ⟨-, groups, all, patterns⟩ := ofEntries_of_ok compiled
  simp only [IgnoreRules.matched, patterns, List.any_flatten, List.any_eq_true] at h ⊢
  obtain ⟨ps, mem, h⟩ := h
  obtain ⟨entry, -, read⟩ := (mapM_patternsOf all).2 ps mem
  exact ⟨ps, mem, List.any_eq_true.mp (patternsOf_below read (List.any_eq_true.mpr h) q)⟩

end IgnoreRules
end TodoLedger
