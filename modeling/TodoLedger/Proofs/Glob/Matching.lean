import Mathlib.Data.List.Basic
import TodoLedger.Glob.Pattern

/-! What patterns match. A part of a pattern matches at the front of a byte sequence whatever comes after, and a
pattern that ends with all below matches with a path everything below it. -/

namespace TodoLedger.Glob

variable {r s u : Bytes} {ts : List Token}

/-! ### Rests -/

theorem mem_suffixes_iff : r ∈ suffixes s ↔ r <:+ s := by
  induction s with
  | nil => simp [suffixes]
  | cons b s ih => rw [suffixes, List.mem_cons, ih, List.suffix_cons_iff]

theorem append_mem_suffixes (h : r ∈ suffixes s) (u : Bytes) : r ++ u ∈ suffixes (s ++ u) := by
  obtain ⟨front, rfl⟩ := mem_suffixes_iff.mp h
  exact mem_suffixes_iff.mpr ⟨front, (List.append_assoc ..).symm⟩

theorem append_mem_afterSlashes (h : r ∈ afterSlashes s) (u : Bytes) : r ++ u ∈ afterSlashes (s ++ u) := by
  induction s with
  | nil => simp [afterSlashes] at h
  | cons b s ih =>
    rw [List.cons_append, afterSlashes]
    rw [afterSlashes] at h
    by_cases hb : b = slash
    · rw [if_pos hb] at h ⊢
      rcases List.mem_cons.mp h with rfl | h
      · exact List.mem_cons_self
      · exact List.mem_cons_of_mem _ (ih h)
    · rw [if_neg hb] at h ⊢
      exact ih h

theorem mem_sequenceRests_cons {t : Token} :
    r ∈ sequenceRests (t :: ts) s ↔ ∃ m ∈ t.rests s, r ∈ sequenceRests ts m := by
  rw [sequenceRests, List.mem_flatten]
  constructor
  · rintro ⟨_, found, hr⟩
    obtain ⟨m, hm, rfl⟩ := List.mem_map.mp found
    exact ⟨m, List.mem_eraseDups.mp hm, hr⟩
  · rintro ⟨m, hm, hr⟩
    exact ⟨_, List.mem_map_of_mem (List.mem_eraseDups.mpr hm), hr⟩

/-- All below: a slash and whatever comes after it. -/
theorem mem_everythingBelow_rests : r ∈ Token.everythingBelow.rests s ↔ ∃ t, s = slash :: t ∧ r ∈ suffixes t := by
  cases s with
  | nil => simp [Token.rests]
  | cons b s =>
    by_cases hb : b = slash
    · simp [Token.rests, hb]
    · simp [Token.rests, hb]

mutual

/-- What comes after does not keep a part from matching at the front. -/
theorem Token.append_mem_rests (u : Bytes) : ∀ (t : Token) {r s : Bytes}, r ∈ t.rests s → r ++ u ∈ t.rests (s ++ u)
  | .literal c, r, s, h => by
    rw [Token.rests, Option.mem_toList, List.isPrefixOf?_eq_some_iff_append_eq] at h ⊢
    rw [← h, List.append_assoc]
  | .anyByte, r, s, h => by
    cases s with
    | nil => simp [Token.rests] at h
    | cons b s =>
      rw [Token.rests, List.mem_singleton] at h
      simp [Token.rests, h]
  | .anyRun, r, s, h => append_mem_suffixes h u
  | .leadingDirs, r, s, h => by
    rw [Token.rests, List.mem_cons] at h ⊢
    rcases h with rfl | h
    · exact Or.inl rfl
    · exact Or.inr (append_mem_afterSlashes h u)
  | .everythingBelow, r, s, h => by
    obtain ⟨t, rfl, h⟩ := mem_everythingBelow_rests.mp h
    exact mem_everythingBelow_rests.mpr ⟨t ++ u, rfl, append_mem_suffixes h u⟩
  | .innerDirs, r, s, h => by
    cases s with
    | nil => simp [Token.rests] at h
    | cons b s =>
      by_cases hb : b = slash
      · simp only [Token.rests, hb, if_true, List.mem_cons, List.cons_append] at h ⊢
        rcases h with rfl | h
        · exact Or.inl rfl
        · exact Or.inr (append_mem_afterSlashes h u)
      · simp [Token.rests, hb] at h
  | .byteClass negated ranges, r, s, h => by
    cases s with
    | nil => simp [Token.rests] at h
    | cons b s =>
      by_cases hb : admits negated ranges b = true
      · simp only [Token.rests, hb, if_true, List.mem_singleton, List.cons_append] at h ⊢
        rw [h]
      · simp [Token.rests, hb] at h
  | .alternatives branches, r, s, h => by
    rw [Token.rests] at h ⊢
    by_cases hb : branches.isEmpty = true
    · rw [if_pos hb, List.mem_singleton] at h ⊢
      rw [h]
    · rw [if_neg hb] at h ⊢
      exact append_mem_branchRests u branches h

theorem append_mem_sequenceRests (u : Bytes) : ∀ (ts : List Token) {r s : Bytes},
    r ∈ sequenceRests ts s → r ++ u ∈ sequenceRests ts (s ++ u)
  | [], r, s, h => by
    rw [sequenceRests, List.mem_singleton] at h ⊢
    rw [h]
  | t :: ts, r, s, h => by
    obtain ⟨m, hm, hr⟩ := mem_sequenceRests_cons.mp h
    exact mem_sequenceRests_cons.mpr
      ⟨m ++ u, t.append_mem_rests u hm, append_mem_sequenceRests u ts hr⟩

theorem append_mem_branchRests (u : Bytes) : ∀ (branches : List (List Token)) {r s : Bytes},
    r ∈ branchRests branches s → r ++ u ∈ branchRests branches (s ++ u)
  | [], r, s, h => by simp [branchRests] at h
  | branch :: more, r, s, h => by
    rw [branchRests, List.mem_append] at h ⊢
    exact h.imp (append_mem_sequenceRests u branch) (append_mem_branchRests u more)

end

/-! ### Everything below a path -/

theorem mem_sequenceRests_append {us : List Token} :
    r ∈ sequenceRests (ts ++ us) s ↔ ∃ m ∈ sequenceRests ts s, r ∈ sequenceRests us m := by
  induction ts generalizing s with
  | nil => simp [sequenceRests]
  | cons t ts ih =>
    simp only [List.cons_append, mem_sequenceRests_cons, ih]
    constructor
    · rintro ⟨m, hm, n, hn, hr⟩
      exact ⟨n, ⟨m, hm, hn⟩, hr⟩
    · rintro ⟨n, ⟨m, hm, hn⟩, hr⟩
      exact ⟨m, hm, n, hn, hr⟩

theorem nil_mem_sequenceRests_below :
    [] ∈ sequenceRests (ts ++ [.everythingBelow]) s ↔ ∃ t, slash :: t ∈ sequenceRests ts s := by
  have below : ∀ m, [] ∈ sequenceRests [.everythingBelow] m ↔ ∃ t, m = slash :: t := fun m => by
    simp [sequenceRests, mem_everythingBelow_rests, mem_suffixes_iff]
  simp only [mem_sequenceRests_append, below]
  constructor
  · rintro ⟨_, hm, t, rfl⟩
    exact ⟨t, hm⟩
  · rintro ⟨t, ht⟩
    exact ⟨_, ht, t, rfl⟩

theorem below_of_matched (h : [] ∈ sequenceRests ts s) (u : Bytes) :
    [] ∈ sequenceRests (ts ++ [.everythingBelow]) (s ++ slash :: u) :=
  nil_mem_sequenceRests_below.mpr ⟨u, append_mem_sequenceRests (slash :: u) ts h⟩

theorem below_of_below (h : [] ∈ sequenceRests (ts ++ [.everythingBelow]) s) (u : Bytes) :
    [] ∈ sequenceRests (ts ++ [.everythingBelow]) (s ++ u) := by
  obtain ⟨t, ht⟩ := nil_mem_sequenceRests_below.mp h
  exact nil_mem_sequenceRests_below.mpr ⟨t ++ u, append_mem_sequenceRests u ts ht⟩

theorem Pattern.isMatch_iff {p : Pattern} {path : Text} :
    p.isMatch path = true ↔ p.tokens = [.leadingDirs] ∨ [] ∈ sequenceRests p.tokens (Text.utf8 path) := by
  rw [isMatch]
  split
  · rename_i all
    exact iff_of_true rfl (Or.inl all)
  · rename_i other
    rw [or_iff_right other, List.any_eq_true]
    simp only [List.isEmpty_iff]
    constructor
    · rintro ⟨_, hr, rfl⟩
      exact hr
    · intro hr
      exact ⟨[], hr, rfl⟩

end TodoLedger.Glob
