import Mathlib.Data.List.Infix
import Mathlib.Data.List.TakeWhile
import TodoLedger.Text.Lowercase

/-! Lower case of a text among others. A capital sigma takes one form at the end of a word and another elsewhere, so it
matters where the text stands unless the text itself tells for each of its capital sigmas. All other letters, and the
letter case of what stands around, do not matter. -/

namespace TodoLedger.Text

variable {before before' after after' t u v : Text} {c d : Char}

/-! ### Texts among others -/

/-- Whether a capital sigma between two texts, the first of which is read backwards, ends a word. -/
def endsWord (before after : Text) : Bool := meetsCased before && !meetsCased after

/-- The lower case of a character between two texts, the first of which is read backwards. -/
def lowerAt (before : Text) (c : Char) (after : Text) : Text :=
  if c == 'Σ' then (if endsWord before after then ['ς'] else ['σ']) else lowerChar c

/-- The lower case of a text between two others, the first of which is read backwards. -/
def lowerBetween (before t after : Text) : Text :=
  match t with
  | [] => []
  | c :: r => lowerAt before c (r ++ after) ++ lowerBetween (c :: before) r after

theorem lowerAfter_append (before t after : Text) :
    lowerAfter before (t ++ after) = lowerBetween before t after ++ lowerAfter (t.reverse ++ before) after := by
  induction t generalizing before with
  | nil => rfl
  | cons c r ih =>
    rw [List.cons_append, lowerAfter, ih, lowerBetween, List.append_assoc, List.reverse_cons, List.append_assoc]
    rfl

theorem lower_eq (t : Text) : lower t = lowerBetween [] t [] := by
  have whole := lowerAfter_append [] t []
  rwa [List.append_nil, lowerAfter, List.append_nil] at whole

/-- The lower case of a text in three parts. -/
theorem lower_append (before t after : Text) : lower (before ++ t ++ after) =
    lowerBetween [] before (t ++ after) ++ lowerBetween before.reverse t after ++
      lowerBetween (t.reverse ++ before.reverse) after [] := by
  have last := lowerAfter_append (t.reverse ++ before.reverse) after []
  rw [List.append_nil, lowerAfter, List.append_nil] at last
  rw [lower, List.append_assoc, lowerAfter_append, List.append_nil, lowerAfter_append, last, List.append_assoc]

theorem lowerBetween_append (before u v after : Text) : lowerBetween before (u ++ v) after =
    lowerBetween before u (v ++ after) ++ lowerBetween (u.reverse ++ before) v after := by
  induction u generalizing before with
  | nil => rfl
  | cons c u ih =>
    rw [List.cons_append, lowerBetween, ih, lowerBetween, List.append_assoc, List.append_assoc, List.reverse_cons,
      List.append_assoc]
    rfl

/-- The lower case of a text is the same among others if its capital sigmas end words alike. -/
theorem lowerBetween_congr (alike : ∀ u v, t = u ++ 'Σ' :: v →
      endsWord (u.reverse ++ before) (v ++ after) = endsWord (u.reverse ++ before') (v ++ after')) :
    lowerBetween before t after = lowerBetween before' t after' := by
  induction t generalizing before before' with
  | nil => rfl
  | cons c r ih =>
    have here : lowerAt before c (r ++ after) = lowerAt before' c (r ++ after') := by
      rw [lowerAt, lowerAt]
      by_cases sigma : c = 'Σ'
      · subst sigma
        rw [show endsWord before (r ++ after) = _ from alike [] r rfl]
        rfl
      · rw [if_neg (by simpa using sigma), if_neg (by simpa using sigma)]
    rw [lowerBetween, lowerBetween, here]
    refine congrArg _ (ih fun u v split => ?_)
    have later := alike (c :: u) v (by rw [split, List.cons_append])
    rwa [List.reverse_cons, List.append_assoc, List.append_assoc] at later

theorem lowerBetween_of_notMem (plain : 'Σ' ∉ t) (before after before' after' : Text) :
    lowerBetween before t after = lowerBetween before' t after' :=
  lowerBetween_congr fun u _ split => absurd (split ▸ List.mem_append_right u List.mem_cons_self) plain

/-! ### Capital sigmas that the text tells -/

theorem meetsCased_append_of_ignorable (skipped : ∀ c ∈ u, isCaseIgnorable c = true) (v : Text) :
    meetsCased (u ++ v) = meetsCased v := by
  rw [meetsCased, meetsCased, List.dropWhile_append_of_pos skipped]

theorem meetsCased_append_of_mem (mem : c ∈ u) (counts : isCaseIgnorable c = false) (v : Text) :
    meetsCased (u ++ v) = meetsCased u := by
  have stops : u.dropWhile isCaseIgnorable ≠ [] := by
    rw [ne_eq, List.dropWhile_eq_nil_iff]
    intro skipped
    rw [skipped c mem] at counts
    cases counts
  obtain ⟨d, r, rest⟩ := List.exists_cons_of_ne_nil stops
  rw [meetsCased, meetsCased, List.dropWhile_append, rest]
  rfl

theorem meetsCased_cons (counts : isCaseIgnorable c = false) (v : Text) : meetsCased (c :: v) = isCased c := by
  rw [meetsCased, List.dropWhile_cons_of_neg (by simp [counts])]

theorem counts_of_meetsCased (cased : meetsCased u = true) : ∃ c ∈ u, isCaseIgnorable c = false := by
  by_contra none_counts
  have skipped : ∀ c ∈ u, isCaseIgnorable c = true := fun c mem => by
    cases counts : isCaseIgnorable c with
    | true => rfl
    | false => exact absurd ⟨c, mem, counts⟩ none_counts
  rw [← List.append_nil u, meetsCased_append_of_ignorable skipped] at cased
  cases cased

/-- Between two texts a capital sigma ends a word or does not, whatever stands around the texts: the first character
that counts after it is a letter with case, or one counts before it and, if that is a letter with case, one counts
after it as well. -/
def Settled (before after : Text) : Prop :=
  meetsCased after = true ∨ (∃ c ∈ before, isCaseIgnorable c = false) ∧
    (meetsCased before.reverse = true → ∃ c ∈ after, isCaseIgnorable c = false)

theorem Settled.endsWord_eq (settled : Settled u v) (before after : Text) :
    endsWord (u.reverse ++ before) (v ++ after) = endsWord u.reverse v := by
  rw [endsWord, endsWord]
  rcases settled with followed | ⟨⟨c, mem, counts⟩, tells⟩
  · obtain ⟨c, mem, counts⟩ := counts_of_meetsCased followed
    rw [meetsCased_append_of_mem mem counts, followed]
    simp
  · rw [meetsCased_append_of_mem (List.mem_reverse.mpr mem) counts]
    cases cased : meetsCased u.reverse with
    | false => rfl
    | true =>
      obtain ⟨d, mem, counts⟩ := tells cased
      rw [meetsCased_append_of_mem mem counts]

/-- A text that settles its capital sigmas has one lower case wherever it stands. -/
theorem lowerBetween_of_settled (settled : ∀ u v, t = u ++ 'Σ' :: v → Settled u v) (before after : Text) :
    lowerBetween before t after = lower t := by
  rw [lower_eq]
  refine lowerBetween_congr fun u v split => ?_
  rw [(settled u v split).endsWord_eq, List.append_nil, List.append_nil]

/-! ### Capital sigmas that the text does not tell -/

theorem lowerBetween_sigma (before u v after : Text) : lowerBetween before (u ++ 'Σ' :: v) after =
    lowerBetween before u ('Σ' :: v ++ after) ++
      ((if endsWord (u.reverse ++ before) (v ++ after) then 'ς' else 'σ') ::
        lowerBetween ('Σ' :: (u.reverse ++ before)) v after) := by
  rw [lowerBetween_append, lowerBetween, lowerAt]
  cases endsWord (u.reverse ++ before) (v ++ after) <;> rfl

theorem isCaseIgnorable_sigma : isCaseIgnorable 'Σ' = false := by decide +kernel

theorem notMem_of_ignorable (skipped : ∀ c ∈ u, isCaseIgnorable c = true) : 'Σ' ∉ u := fun mem =>
  Bool.false_ne_true (isCaseIgnorable_sigma.symm.trans (skipped 'Σ' mem))

/-- What stands beyond a capital sigma does not count. -/
theorem meetsCased_sigma (u v : Text) : meetsCased (u ++ 'Σ' :: v) = meetsCased (u ++ ['Σ']) := by
  rw [List.append_cons]
  exact meetsCased_append_of_mem (List.mem_append_right u List.mem_cons_self) isCaseIgnorable_sigma v

theorem meetsCased_blank (u v : Text) : meetsCased (u ++ ' ' :: v) = meetsCased u := by
  by_cases counts : ∃ c ∈ u, isCaseIgnorable c = false
  · obtain ⟨c, mem, counts⟩ := counts
    exact meetsCased_append_of_mem mem counts _
  · have skipped : ∀ c ∈ u, isCaseIgnorable c = true := fun c mem =>
      Bool.of_not_eq_false fun counted => counts ⟨c, mem, counted⟩
    have alone := meetsCased_append_of_ignorable skipped []
    rw [List.append_nil] at alone
    rw [meetsCased_append_of_ignorable skipped, alone, meetsCased_cons (by decide)]
    rfl

/-- A capital sigma that is not settled begins its text or ends it, and no letter with case comes after it. -/
theorem unsettled_cases (unsettled : ¬Settled u v) :
    (∀ c ∈ u, isCaseIgnorable c = true) ∧ meetsCased v = false ∨
      meetsCased u.reverse = true ∧ ∀ c ∈ v, isCaseIgnorable c = true := by
  obtain ⟨followed, untold⟩ := not_or.mp unsettled
  by_cases counts : ∃ c ∈ u, isCaseIgnorable c = false
  · right
    obtain ⟨cased, none_counts⟩ := Classical.not_imp.mp fun tells => untold ⟨counts, tells⟩
    exact ⟨cased, fun c mem => Bool.of_not_eq_false fun counted => none_counts ⟨c, mem, counted⟩⟩
  · left
    exact ⟨fun c mem => Bool.of_not_eq_false fun counted => counts ⟨c, mem, counted⟩, Bool.of_not_eq_true followed⟩

/-- Behind a letter, a capital sigma that begins a text may end a word that it does not end alone. -/
theorem count_lowerBetween_of_begins (skipped : ∀ c ∈ u, isCaseIgnorable c = true) (last : meetsCased v = false)
    (cased : isCased c = true) (counts : isCaseIgnorable c = false) (before : Text) :
    (lowerBetween (c :: before) (u ++ 'Σ' :: v) []).count 'σ' < (lower (u ++ 'Σ' :: v)).count 'σ' := by
  have reversed : ∀ c ∈ u.reverse, isCaseIgnorable c = true := fun c mem => skipped c (List.mem_reverse.mp mem)
  have front := lowerBetween_of_notMem (notMem_of_ignorable skipped) (c :: before) ('Σ' :: v ++ []) [] ('Σ' :: v ++ [])
  have back : lowerBetween ('Σ' :: (u.reverse ++ c :: before)) v [] = lowerBetween ('Σ' :: (u.reverse ++ [])) v [] := by
    refine lowerBetween_congr fun x y _ => ?_
    rw [endsWord, endsWord, meetsCased_sigma, meetsCased_sigma x.reverse (u.reverse ++ [])]
  have among : endsWord (u.reverse ++ c :: before) (v ++ []) = true := by
    rw [endsWord, meetsCased_append_of_ignorable reversed, meetsCased_cons counts, cased, List.append_nil, last]
    rfl
  have alone : endsWord (u.reverse ++ []) (v ++ []) = false := by
    rw [endsWord, meetsCased_append_of_ignorable reversed]
    rfl
  rw [lower_eq, lowerBetween_sigma, lowerBetween_sigma, front, back, among, alone, if_pos rfl, if_neg Bool.false_ne_true]
  simp

/-- Before a letter, a capital sigma that ends a text does not end a word that it ends alone. -/
theorem count_lowerBetween_of_ends (after_letter : meetsCased u.reverse = true)
    (skipped : ∀ c ∈ v, isCaseIgnorable c = true) (cased : isCased c = true) (counts : isCaseIgnorable c = false)
    (before : Text) :
    (lowerBetween (' ' :: before) (u ++ 'Σ' :: v) [c]).count 'ς' < (lower (u ++ 'Σ' :: v)).count 'ς' := by
  have front : lowerBetween (' ' :: before) u ('Σ' :: v ++ [c]) = lowerBetween [] u ('Σ' :: v ++ []) := by
    refine lowerBetween_congr fun x y _ => ?_
    rw [endsWord, endsWord, meetsCased_blank, List.append_nil, List.cons_append, List.cons_append, meetsCased_sigma,
      meetsCased_sigma y (v ++ [])]
  have back := lowerBetween_of_notMem (notMem_of_ignorable skipped) ('Σ' :: (u.reverse ++ ' ' :: before)) [c]
    ('Σ' :: (u.reverse ++ [])) []
  have among : endsWord (u.reverse ++ ' ' :: before) (v ++ [c]) = false := by
    rw [endsWord, meetsCased_append_of_ignorable skipped, meetsCased_cons counts, cased]
    exact Bool.and_false _
  have alone : endsWord (u.reverse ++ []) (v ++ []) = true := by
    rw [endsWord, List.append_nil, after_letter, meetsCased_append_of_ignorable skipped]
    rfl
  rw [lower_eq, lowerBetween_sigma, lowerBetween_sigma, front, back, among, alone, if_pos rfl, if_neg Bool.false_ne_true]
  simp

/-! ### ASCII letters in either case -/

theorem toLower_eq_or_upper (c : Char) : c.toLower = c ∨ 65 ≤ c.toNat ∧ c.toNat ≤ 90 := by
  by_cases upper : c.isUpper = true
  · exact Or.inr (of_decide_eq_true upper)
  · exact Or.inl (dif_neg fun bounds => upper (decide_eq_true bounds))

/-- What holds of each ASCII letter and of each character that has no lower case in ASCII. -/
theorem ascii_cases {P : Char → Prop} (c : Char) (letters : ∀ n < 26, P (Char.ofNat (65 + n)))
    (same : c.toLower = c → P c) : P c := by
  rcases toLower_eq_or_upper c with lowered | ⟨least, most⟩
  · exact same lowered
  · have letter := letters (c.toNat - 65) (by omega)
    rwa [show 65 + (c.toNat - 65) = c.toNat by omega, Char.ofNat_toNat] at letter

theorem isCased_toLower (c : Char) : isCased c.toLower = isCased c :=
  ascii_cases (P := fun c => isCased c.toLower = isCased c) c (by decide) fun same => by rw [same]

theorem isCaseIgnorable_toLower (c : Char) : isCaseIgnorable c.toLower = isCaseIgnorable c :=
  ascii_cases (P := fun c => isCaseIgnorable c.toLower = isCaseIgnorable c) c (by decide) fun same => by rw [same]

theorem lowerAt_toLower (before : Text) (c : Char) (after : Text) :
    lowerAt before c.toLower after = lowerAt before c after := by
  refine ascii_cases (P := fun c => lowerAt before c.toLower after = lowerAt before c after) c ?_
    fun same => by rw [same]
  have letters : ∀ n < 26, lowerChar (Char.ofNat (65 + n)).toLower = lowerChar (Char.ofNat (65 + n)) ∧
      (Char.ofNat (65 + n)).toLower ≠ 'Σ' ∧ Char.ofNat (65 + n) ≠ 'Σ' := by decide
  intro n hn
  obtain ⟨same, small, capital⟩ := letters n hn
  rw [lowerAt, lowerAt, if_neg (by simpa using small), if_neg (by simpa using capital), same]

theorem meetsCased_lowerAscii (t : Text) : meetsCased (lowerAscii t) = meetsCased t := by
  rw [meetsCased, meetsCased, lowerAscii, List.dropWhile_map]
  rw [show isCaseIgnorable ∘ Char.toLower = isCaseIgnorable from funext isCaseIgnorable_toLower]
  cases t.dropWhile isCaseIgnorable with
  | nil => rfl
  | cons c r => exact isCased_toLower c

theorem lowerAt_lowerAscii (before : Text) (c : Char) (after : Text) :
    lowerAt (lowerAscii before) c (lowerAscii after) = lowerAt before c after := by
  rw [lowerAt, lowerAt, endsWord, endsWord, meetsCased_lowerAscii, meetsCased_lowerAscii]

/-- Texts that differ in the case of ASCII letters have the same lower case among the same others. -/
theorem lowerBetween_lowerAscii (before t after : Text) :
    lowerBetween (lowerAscii before) (lowerAscii t) (lowerAscii after) = lowerBetween before t after := by
  induction t generalizing before with
  | nil => rfl
  | cons c r ih =>
    have rest := ih (c :: before)
    have behind : lowerAscii r ++ lowerAscii after = lowerAscii (r ++ after) := List.map_append.symm
    rw [lowerBetween, ← rest, ← lowerAt_lowerAscii, ← behind, ← lowerAt_toLower]
    rfl

theorem lowerBetween_congr_ascii (same : lowerAscii u = lowerAscii v) (before after : Text) :
    lowerBetween before u after = lowerBetween before v after := by
  rw [← lowerBetween_lowerAscii, same, lowerBetween_lowerAscii]

/-! ### Parts of texts -/

theorem lowerChar_ne_nil (c : Char) : lowerChar c ≠ [] := by
  rw [lowerChar]
  split_ifs
  · exact List.cons_ne_nil _ _
  · exact List.cons_ne_nil _ _
  · split <;> exact List.cons_ne_nil _ _

theorem lower_ne_nil (some_text : t ≠ []) : lower t ≠ [] := by
  obtain ⟨c, r, rfl⟩ := List.exists_cons_of_ne_nil some_text
  rw [lower_eq, lowerBetween]
  refine List.append_ne_nil_of_left_ne_nil ?_ _
  rw [lowerAt]
  split_ifs
  · exact List.cons_ne_nil _ _
  · exact List.cons_ne_nil _ _
  · exact lowerChar_ne_nil c

theorem contains_iff : contains u t = true ↔ u <:+: t := by
  induction t with
  | nil => rw [contains, List.isEmpty_iff, List.infix_nil]
  | cons c t ih => rw [contains, Bool.or_eq_true, List.isPrefixOf_iff_prefix, ih, List.infix_cons_iff]

/-- A text that settles its capital sigmas keeps standing in another one if both are put in lower case. -/
theorem lower_infix_lower (settled : ∀ u v, t = u ++ 'Σ' :: v → Settled u v) (same : lowerAscii u = lowerAscii t)
    (stands : u <:+: v) : lower t <:+: lower v := by
  obtain ⟨before, after, rfl⟩ := stands
  rw [lower_append, lowerBetween_congr_ascii same, lowerBetween_of_settled settled]
  exact List.infix_append _ _ _

end TodoLedger.Text
