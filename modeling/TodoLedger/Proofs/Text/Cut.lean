import Mathlib.Data.List.Basic
import TodoLedger.Text.Basic

/-! Texts that are cut in two at the first place of a character. -/

namespace TodoLedger.Text

variable {t : Text} {c : Char}

/-- A text is cut at the first `c`. -/
theorem cut?_eq_some_iff {head tail : Text} : cut? c t = some (head, tail) ↔ t = head ++ c :: tail ∧ c ∉ head := by
  induction t generalizing head with
  | nil => simp [cut?]
  | cons d r ih =>
    rw [cut?]
    split
    · rename_i hd
      subst hd
      constructor
      · intro h
        cases h
        exact ⟨rfl, List.not_mem_nil⟩
      · rintro ⟨split, apart⟩
        cases head with
        | nil => rw [(List.cons.inj split).2]
        | cons e head => exact absurd (List.mem_cons.mpr (Or.inl (List.cons.inj split).1)) apart
    · rename_i hd
      rw [Option.map_eq_some_iff]
      constructor
      · rintro ⟨⟨front, rest⟩, hr, same⟩
        cases same
        obtain ⟨rfl, apart⟩ := ih.mp hr
        exact ⟨rfl, List.not_mem_cons_of_ne_of_not_mem (Ne.symm hd) apart⟩
      · rintro ⟨split, apart⟩
        cases head with
        | nil => exact absurd (List.cons.inj split).1 hd
        | cons e head =>
          obtain ⟨rfl, later⟩ := List.cons.inj split
          exact ⟨_, ih.mpr ⟨later, List.not_mem_of_not_mem_cons apart⟩, rfl⟩

theorem cut?_eq_none_iff : cut? c t = none ↔ c ∉ t := by
  induction t with
  | nil => simp [cut?]
  | cons d r ih =>
    rw [cut?]
    split
    · rename_i hd
      simp [hd]
    · rename_i hd
      simp [ih, Ne.symm hd]

/-- A text is cut at the first place of the character, which may stand before the one that is put behind it. -/
theorem cut?_append_cons (c : Char) (t r : Text) :
    (cut? c (t ++ c :: r)).map Prod.fst = some (t.takeWhile fun d => !(d == c)) := by
  induction t with
  | nil => rw [List.nil_append, cut?, if_pos rfl, Option.map_some, List.takeWhile_nil]
  | cons d t ih =>
    rw [List.cons_append, cut?]
    by_cases here : d = c
    · rw [if_pos here, Option.map_some, List.takeWhile_cons_of_neg (by simpa using here)]
    · rw [if_neg here, List.takeWhile_cons_of_pos (by simpa using here)]
      obtain ⟨⟨head, tail⟩, cut, first⟩ := Option.map_eq_some_iff.mp ih
      obtain rfl : head = _ := first
      rw [cut]
      rfl

end TodoLedger.Text
