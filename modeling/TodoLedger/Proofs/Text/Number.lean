import Mathlib.Data.List.Basic
import TodoLedger.Text.Number

/-! Numbers as decimal text, and which texts are read as numbers. -/

namespace TodoLedger.Text

variable {c : Char} {m n acc : Nat} {t : Text}

theorem isDigit_of_mem_ofNat (mem : c ∈ ofNat n) : c.isDigit = true :=
  Nat.isDigit_of_mem_toDigits (by decide) (by decide) mem

theorem length_ofNat_le (le : m ≤ n) : (ofNat m).length ≤ (ofNat n).length := by
  have some_digit : 0 < (ofNat n).length := Nat.length_toDigits_pos
  have bound : n < 10 ^ (ofNat n).length := (Nat.length_toDigits_le_iff (by decide) some_digit).mp (Nat.le_refl _)
  exact (Nat.length_toDigits_le_iff (by decide) some_digit).mpr (Nat.lt_of_le_of_lt le bound)

/-- No other number than 0 starts with a zero. -/
theorem eq_zero_of_head?_ofNat (zero : (ofNat n).head? = some '0') : n = 0 := by
  induction n using Nat.strongRecOn with
  | ind n ih =>
    rcases Nat.lt_or_ge n 10 with small | large
    · rw [ofNat, Nat.toDigits_of_lt_base small] at zero
      have first : ∀ n < 10, [Nat.digitChar n].head? = some '0' → n = 0 := by decide
      exact first n small zero
    · rw [ofNat, Nat.toDigits_of_base_le (by decide) large, List.head?_append_of_ne_nil _ Nat.toDigits_ne_nil] at zero
      have := ih (n / 10) (by omega) zero
      omega

/-- The number that one or more decimal digits denote. -/
def decimal? (t : Text) : Option Nat :=
  if !t.isEmpty && t.all Char.isDigit then some (Nat.ofDigitChars 10 t 0) else none

theorem decimal?_ofNat (n : Nat) : decimal? (ofNat n) = some n := by
  have digits : (ofNat n).all Char.isDigit = true := List.all_eq_true.mpr fun _ mem => isDigit_of_mem_ofNat mem
  have some_digit : (ofNat n).isEmpty = false := by simp [ofNat]
  rw [decimal?, if_pos (by rw [digits, some_digit]; rfl), ofNat, Nat.ofDigitChars_ten_toDigits]

/-! ### Digits as they are read -/

theorem digitValue?_of_isDigit (digit : c.isDigit = true) :
    digitValue? c = some (c.toNat - '0'.toNat) ∧ c.toNat - '0'.toNat < 10 := by
  have bounds : 48 ≤ c.toNat ∧ c.toNat ≤ 57 := by
    simpa [Char.isDigit, UInt32.le_iff_toNat_le] using digit
  constructor
  · exact if_pos digit
  · change c.toNat - 48 < 10
    omega

/-- A letter is a digit in larger bases only. -/
theorem digitValue?_of_not_isDigit (other : c.isDigit = false) : ∀ d, digitValue? c = some d → 10 ≤ d := by
  intro d value
  rw [digitValue?] at value
  split at value
  · exact absurd ‹_› (Bool.eq_false_iff.mp other)
  split at value
  · cases value
    exact Nat.le_add_left 10 _
  split at value
  · cases value
    exact Nat.le_add_left 10 _
  · cases value

theorem digitsFrom?_ten_eq_some_iff :
    digitsFrom? 10 acc t = some n ↔ t.all Char.isDigit = true ∧ n = Nat.ofDigitChars 10 t acc := by
  induction t generalizing acc with
  | nil => simp [digitsFrom?, eq_comm]
  | cons c t ih =>
    rw [digitsFrom?, List.all_cons, Nat.ofDigitChars_cons, Bool.and_eq_true]
    cases digit : c.isDigit with
    | true =>
      obtain ⟨value, small⟩ := digitValue?_of_isDigit digit
      rw [value, Option.bind_eq_bind, Option.bind_some, if_pos small, ih, Nat.mul_comm]
      simp
    | false =>
      have large := digitValue?_of_not_isDigit digit
      cases value : digitValue? c with
      | none => simp
      | some d => simp [Nat.not_lt.mpr (large d value)]

theorem digits?_ten_eq_some_iff : digits? 10 t = some n ↔ decimal? t = some n ∧ n ≤ maxCount := by
  rw [digits?, decimal?]
  cases t with
  | nil => simp
  | cons c t =>
    rw [if_neg (by simp), Option.filter_eq_some_iff, digitsFrom?_ten_eq_some_iff, decide_eq_true_iff]
    refine and_congr_left fun _ => ?_
    rw [List.isEmpty_cons, Bool.not_false, Bool.true_and]
    split
    · rename_i digits
      rw [and_iff_right digits, Option.some.injEq]
      exact eq_comm
    · rename_i other
      exact iff_of_false (fun h => other h.1) nofun

/-- A text that is a count: decimal digits after a plus sign or without, of a number below 2^64. -/
def IsCount (t : Text) (n : Nat) : Prop :=
  ∃ digits, (t = digits ∨ t = '+' :: digits) ∧ decimal? digits = some n ∧ n < UInt64.size

theorem count?_eq_some_iff : count? t = some n ↔ IsCount t n := by
  have bound : ∀ {m}, m ≤ maxCount ↔ m < UInt64.size := Nat.le_sub_one_iff_lt (by decide)
  have plain : ∀ {u : Text}, digits? 10 u = some n ↔ decimal? u = some n ∧ n < UInt64.size :=
    digits?_ten_eq_some_iff.trans (and_congr_right fun _ => bound)
  rw [count?.eq_def]
  split
  · rename_i r
    rw [plain]
    constructor
    · exact fun digits => ⟨r, Or.inr rfl, digits⟩
    · rintro ⟨digits, rfl | same, value⟩
      · -- a plus sign is no digit
        cases value.1
      · cases same
        exact value
  · rename_i unsigned
    rw [plain]
    constructor
    · exact fun digits => ⟨t, Or.inl rfl, digits⟩
    · rintro ⟨digits, rfl | same, value⟩
      · exact value
      · exact absurd same (unsigned digits)

end TodoLedger.Text
