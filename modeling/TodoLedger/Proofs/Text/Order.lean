import Mathlib.Data.List.Basic
import TodoLedger.Text.Utf8

/-! The order of texts. Texts in UTF-8 have the order of their characters, and sets of texts are listed in it. -/

namespace TodoLedger.Text

variable {s t u : Text} {ts : List Text} {c d : Char}

/-! ### Characters -/

theorem ofNat_lt_ofNat_iff {a b : Nat} (ha : a < 256) (hb : b < 256) : UInt8.ofNat a < UInt8.ofNat b ↔ a < b := by
  rw [UInt8.lt_iff_toNat_lt, UInt8.toNat_ofNat', UInt8.toNat_ofNat']
  omega

theorem ofNat_eq_ofNat_iff {a b : Nat} (ha : a < 256) (hb : b < 256) : UInt8.ofNat a = UInt8.ofNat b ↔ a = b := by
  rw [← UInt8.toNat_inj, UInt8.toNat_ofNat', UInt8.toNat_ofNat']
  omega

/-- Of two characters the smaller one has the smaller bytes, whatever comes after them. -/
theorem utf8EncodeChar_lt (h : c < d) (r u : Bytes) : String.utf8EncodeChar c ++ r < String.utf8EncodeChar d ++ u := by
  have less : c.val.toNat < d.val.toNat := h
  have valid : d.val.toNat < 0x110000 := by
    rcases d.valid with small | large
    · exact Nat.lt_trans small (by decide)
    · exact large.2
  rw [String.utf8EncodeChar, String.utf8EncodeChar]
  generalize c.val.toNat = m at *
  generalize d.val.toNat = n at *
  -- the bytes of a character are its digits, six bits each
  have digits : ∀ k < 0x110000, k / 4096 = k / 64 / 64 ∧ k / 262144 % 8 = k / 64 / 64 / 64 := fun k hk => by omega
  have order : ∀ i j, i < j → i / 64 < j / 64 ∨ i / 64 = j / 64 ∧ i % 64 < j % 64 := fun i j => by omega
  obtain ⟨m₂, m₃⟩ := digits m (by omega)
  obtain ⟨n₂, n₃⟩ := digits n valid
  have first := order m n less
  have second := order (m / 64) (n / 64)
  have third := order (m / 64 / 64) (n / 64 / 64)
  clear digits order
  rw [m₂, m₃, n₂, n₃]
  split_ifs <;>
    simp (disch := omega) only [List.cons_append, List.nil_append, List.cons_lt_cons_iff, ofNat_lt_ofNat_iff,
      ofNat_eq_ofNat_iff] <;>
    omega

/-! ### Texts -/

/-- Texts in UTF-8 have the order of the texts. -/
theorem utf8_lt (h : s < t) : utf8 s < utf8 t := by
  induction s generalizing t with
  | nil =>
    cases t with
    | nil => exact absurd h (List.lt_irrefl _)
    | cons d t =>
      rw [utf8, utf8, List.flatMap_cons]
      cases first : String.utf8EncodeChar d with
      | nil => exact absurd first String.utf8EncodeChar_ne_nil
      | cons b bytes => exact List.nil_lt_cons _ _
  | cons c s ih =>
    cases t with
    | nil => exact absurd h (List.not_lt_nil _)
    | cons d t =>
      rw [utf8, utf8, List.flatMap_cons, List.flatMap_cons]
      obtain less | ⟨rfl, less⟩ := List.cons_lt_cons_iff.mp h
      · exact utf8EncodeChar_lt less _ _
      · exact List.append_left_lt (ih less)

/-! ### Sets of texts -/

theorem mem_insertSorted : u ∈ insertSorted t ts ↔ u = t ∨ u ∈ ts := by
  induction ts with
  | nil => rw [insertSorted, List.mem_singleton, or_iff_left List.not_mem_nil]
  | cons v ts ih =>
    rw [insertSorted]
    split
    · rename_i known
      rw [known, List.mem_cons, ← or_assoc, or_self]
    · split
      · exact List.mem_cons
      · rw [List.mem_cons, ih, List.mem_cons, or_left_comm]

theorem pairwise_insertSorted (ascending : ts.Pairwise (· < ·)) : (insertSorted t ts).Pairwise (· < ·) := by
  induction ts with
  | nil => exact List.pairwise_singleton _ t
  | cons v ts ih =>
    obtain ⟨above, rest⟩ := List.pairwise_cons.mp ascending
    rw [insertSorted]
    split
    · exact ascending
    · rename_i other
      split
      · rename_i before
        have less : t < v := of_decide_eq_true before
        exact List.pairwise_cons.mpr
          ⟨List.forall_mem_cons.mpr ⟨less, fun u hu => List.lt_trans less (above u hu)⟩, ascending⟩
      · rename_i not_before
        have less : v < t := by
          by_contra not_behind
          have not_ahead : ¬t < v := fun before => not_before (decide_eq_true before)
          exact other (List.le_antisymm (List.not_lt.mp not_behind) (List.not_lt.mp not_ahead))
        refine List.pairwise_cons.mpr ⟨fun u hu => ?_, ih rest⟩
        rcases mem_insertSorted.mp hu with rfl | hu
        · exact less
        · exact above u hu

theorem mem_sortedSet : t ∈ sortedSet ts ↔ t ∈ ts := by
  induction ts with
  | nil => rfl
  | cons u ts ih => rw [sortedSet, List.foldr_cons, ← sortedSet, mem_insertSorted, ih, List.mem_cons]

/-- A set of texts is listed without repetition, in the order of texts. -/
theorem pairwise_sortedSet (ts : List Text) : (sortedSet ts).Pairwise (· < ·) := by
  induction ts with
  | nil => exact List.Pairwise.nil
  | cons t ts ih => exact pairwise_insertSorted ih

end TodoLedger.Text
