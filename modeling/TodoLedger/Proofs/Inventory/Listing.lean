import TodoLedger.Inventory

/-! Inventories of listed issues. A title is absent if no issue has it, open if an open one has it and closed if
only closed ones do. -/

namespace TodoLedger.Inventory

variable {inventory : Inventory} {issue : ExistingIssue} {issues more : List ExistingIssue} {f : Text}

/-! ### One issue -/

theorem add_of_absent (absent : inventory.state? (fingerprint issue.title) = none) :
    inventory.add issue = ⟨inventory.entries ++ [(fingerprint issue.title, issue.state)]⟩ := by
  simp only [state?] at absent
  simp only [add, absent]

theorem add_of_closed (known : inventory.state? (fingerprint issue.title) ≠ none) (hs : issue.state = .closed) :
    inventory.add issue = inventory := by
  obtain ⟨state, hl⟩ := Option.ne_none_iff_exists'.mp known
  simp only [state?] at hl
  simp only [add, hl, hs]

theorem add_of_open (known : inventory.state? (fingerprint issue.title) ≠ none) (hs : issue.state = .isOpen) :
    inventory.add issue = ⟨inventory.entries.map fun (g, state) =>
      if g = fingerprint issue.title then (g, .isOpen) else (g, state)⟩ := by
  obtain ⟨state, hl⟩ := Option.ne_none_iff_exists'.mp known
  simp only [state?] at hl
  simp only [add, hl, hs]

/-- Opening the entry of `f` changes what is found for `f` only. -/
theorem lookup_map_open (f g : Text) (entries : List (Text × IssueState)) :
    (entries.map fun (g', state) => if g' = f then (g', .isOpen) else (g', state)).lookup g =
      (entries.lookup g).map fun state => if g = f then .isOpen else state := by
  induction entries with
  | nil => rfl
  | cons entry entries ih =>
    obtain ⟨g', state⟩ := entry
    by_cases hg : g = g'
    · subst hg
      by_cases hf : g = f <;> simp [hf]
    · have hb : (g == g') = false := beq_eq_false_iff_ne.mpr hg
      by_cases hf : g' = f
      · simp only [List.map_cons, hf, if_true, List.lookup_cons, hf ▸ hb, ih]
      · simp only [List.map_cons, hf, if_false, List.lookup_cons, hb, ih]

@[simp] theorem state?_empty (f : Text) : empty.state? f = none := rfl

theorem state?_add_of_ne (hf : f ≠ fingerprint issue.title) : (inventory.add issue).state? f = inventory.state? f := by
  by_cases known : inventory.state? (fingerprint issue.title) = none
  · rw [add_of_absent known, state?, List.lookup_append, List.lookup_cons, beq_eq_false_iff_ne.mpr hf]
    exact Option.or_none
  · cases hs : issue.state with
    | closed => rw [add_of_closed known hs]
    | isOpen =>
      rw [add_of_open known hs, state?, lookup_map_open, state?]
      simp [hf]

/-- An open issue opens its title, and a closed one closes it if it is new. -/
theorem state?_add_self (inventory : Inventory) (issue : ExistingIssue) :
    (inventory.add issue).state? (fingerprint issue.title) =
      match issue.state with
      | .isOpen => some .isOpen
      | .closed => (inventory.state? (fingerprint issue.title)).or (some .closed) := by
  by_cases known : inventory.state? (fingerprint issue.title) = none
  · rw [add_of_absent known, known, state?, List.lookup_append, ← state?, known]
    cases issue.state <;> simp
  · obtain ⟨state, hl⟩ := Option.ne_none_iff_exists'.mp known
    cases hs : issue.state with
    | closed => rw [add_of_closed known hs, hl, Option.some_or]
    | isOpen => rw [add_of_open known hs, state?, lookup_map_open, ← state?, hl, Option.map_some, if_pos rfl]

theorem state?_add_eq_none_iff : (inventory.add issue).state? f = none ↔
    inventory.state? f = none ∧ fingerprint issue.title ≠ f := by
  by_cases hf : f = fingerprint issue.title
  · subst hf
    rw [state?_add_self]
    cases issue.state <;> simp
  · simp [state?_add_of_ne hf, Ne.symm hf]

theorem state?_add_eq_open_iff : (inventory.add issue).state? f = some .isOpen ↔
    inventory.state? f = some .isOpen ∨ fingerprint issue.title = f ∧ issue.state = .isOpen := by
  by_cases hf : f = fingerprint issue.title
  · subst hf
    rw [state?_add_self]
    cases issue.state with
    | isOpen => simp
    | closed => cases inventory.state? (fingerprint issue.title) <;> simp
  · simp [state?_add_of_ne hf, Ne.symm hf]

/-! ### Listings -/

theorem state?_foldl_add_eq_none_iff : (issues.foldl add inventory).state? f = none ↔
    inventory.state? f = none ∧ ∀ issue ∈ issues, fingerprint issue.title ≠ f := by
  induction issues generalizing inventory with
  | nil => simp
  | cons issue issues ih => rw [List.foldl_cons, ih, state?_add_eq_none_iff, List.forall_mem_cons, and_assoc]

theorem state?_foldl_add_eq_open_iff : (issues.foldl add inventory).state? f = some .isOpen ↔
    inventory.state? f = some .isOpen ∨ ∃ issue ∈ issues, fingerprint issue.title = f ∧ issue.state = .isOpen := by
  induction issues generalizing inventory with
  | nil => simp
  | cons issue issues ih =>
    rw [List.foldl_cons, ih, state?_add_eq_open_iff, or_assoc]
    simp only [List.mem_cons, exists_eq_or_imp]

theorem state?_ofIssues_eq_none_iff : (ofIssues issues).state? f = none ↔
    ∀ issue ∈ issues, fingerprint issue.title ≠ f := by
  simp [ofIssues, state?_foldl_add_eq_none_iff]

theorem state?_ofIssues_eq_open_iff : (ofIssues issues).state? f = some .isOpen ↔
    ∃ issue ∈ issues, fingerprint issue.title = f ∧ issue.state = .isOpen := by
  simp [ofIssues, state?_foldl_add_eq_open_iff]

/-- There are issues with the fingerprint, and all of them are closed. -/
def OnlyClosed (issues : List ExistingIssue) (f : Text) : Prop :=
  (∃ issue ∈ issues, fingerprint issue.title = f) ∧
    ∀ issue ∈ issues, fingerprint issue.title = f → issue.state = .closed

instance (issues : List ExistingIssue) (f : Text) : Decidable (OnlyClosed issues f) :=
  inferInstanceAs (Decidable (_ ∧ _))

theorem state?_ofIssues_eq_closed_iff : (ofIssues issues).state? f = some .closed ↔ OnlyClosed issues f := by
  have absent : (ofIssues issues).state? f = none ↔ _ := state?_ofIssues_eq_none_iff
  have opened : (ofIssues issues).state? f = some .isOpen ↔ _ := state?_ofIssues_eq_open_iff
  cases hs : (ofIssues issues).state? f with
  | none =>
    refine iff_of_false (by simp) fun ⟨⟨issue, hi, hf⟩, _⟩ => ?_
    exact absent.mp hs issue hi hf
  | some state =>
    cases state with
    | isOpen =>
      obtain ⟨issue, hi, hf, ho⟩ := opened.mp hs
      refine iff_of_false (by simp) fun ⟨_, closed⟩ => ?_
      simp [closed issue hi hf] at ho
    | closed =>
      refine iff_of_true rfl ⟨?_, fun issue hi hf => ?_⟩
      · by_cases known : ∃ issue ∈ issues, fingerprint issue.title = f
        · exact known
        · simp [absent.mpr fun issue hi hf => known ⟨issue, hi, hf⟩] at hs
      · cases ho : issue.state with
        | closed => rfl
        | isOpen => simp [opened.mpr ⟨issue, hi, hf, ho⟩] at hs

end TodoLedger.Inventory
