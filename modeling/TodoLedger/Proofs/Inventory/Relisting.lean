import Mathlib.Data.Finset.Card
import TodoLedger.Proofs.Inventory.Listing
import TodoLedger.Reconciler

/-! Listings of the same issues. An inventory has one entry for each fingerprint of its listing, and what the
entry says depends only on which issues are listed: neither their order nor how often they are listed counts. -/

namespace TodoLedger.Inventory

variable {inventory : Inventory} {issue : ExistingIssue} {issues more : List ExistingIssue} {f : Text}

/-! ### The fingerprints with an entry -/

/-- The fingerprints of the entries. -/
def known (inventory : Inventory) : List Text := inventory.entries.map (·.1)

theorem mem_known_iff : f ∈ inventory.known ↔ inventory.state? f ≠ none := by
  rw [known, state?, ne_eq, List.lookup_eq_none_iff, List.mem_map]
  constructor
  · rintro ⟨entry, he, rfl⟩ absent
    simpa using absent entry he
  · intro known
    by_contra fresh
    refine known fun entry he => bne_iff_ne.mpr fun hf => fresh ⟨entry, he, hf.symm⟩

theorem known_add_of_known (hf : inventory.state? (fingerprint issue.title) ≠ none) :
    (inventory.add issue).known = inventory.known := by
  cases hs : issue.state with
  | closed => rw [add_of_closed hf hs]
  | isOpen =>
    rw [add_of_open hf hs, known, known, List.map_map]
    refine List.map_congr_left fun entry _ => ?_
    simp only [Function.comp_apply]
    split <;> rfl

theorem known_add_of_absent (hf : inventory.state? (fingerprint issue.title) = none) :
    (inventory.add issue).known = inventory.known ++ [fingerprint issue.title] := by
  rw [add_of_absent hf, known, known, List.map_append, List.map_singleton]

theorem nodup_known_add (nodup : inventory.known.Nodup) : (inventory.add issue).known.Nodup := by
  by_cases hf : inventory.state? (fingerprint issue.title) = none
  · have fresh : fingerprint issue.title ∉ inventory.known := fun h => mem_known_iff.mp h hf
    rw [known_add_of_absent hf, ← List.concat_eq_append]
    exact nodup.concat fresh
  · rw [known_add_of_known hf]
    exact nodup

theorem nodup_known_foldl_add (nodup : inventory.known.Nodup) : (issues.foldl add inventory).known.Nodup := by
  induction issues generalizing inventory with
  | nil => exact nodup
  | cons issue issues ih =>
    rw [List.foldl_cons]
    exact ih (nodup_known_add nodup)

theorem mem_known_ofIssues_iff : f ∈ (ofIssues issues).known ↔ ∃ issue ∈ issues, fingerprint issue.title = f := by
  rw [mem_known_iff, ne_eq, state?_ofIssues_eq_none_iff]
  simp

theorem size_ofIssues (issues : List ExistingIssue) :
    (ofIssues issues).size = (issues.map fun issue => fingerprint issue.title).toFinset.card := by
  have nodup : (ofIssues issues).known.Nodup := nodup_known_foldl_add List.nodup_nil
  have same : (ofIssues issues).known.toFinset = (issues.map fun issue => fingerprint issue.title).toFinset := by
    ext f
    rw [List.mem_toFinset, List.mem_toFinset, mem_known_ofIssues_iff, List.mem_map]
  rw [← same, List.toFinset_card_of_nodup nodup, known, List.length_map, size]

/-! ### Listings of the same issues -/

theorem state?_ofIssues_congr (same : ∀ issue, issue ∈ more ↔ issue ∈ issues) (f : Text) :
    (ofIssues more).state? f = (ofIssues issues).state? f := by
  cases hs : (ofIssues issues).state? f with
  | none =>
    rw [state?_ofIssues_eq_none_iff] at hs ⊢
    exact fun issue hi => hs issue ((same issue).mp hi)
  | some state =>
    cases state with
    | isOpen =>
      rw [state?_ofIssues_eq_open_iff] at hs ⊢
      obtain ⟨issue, hi, hf, ho⟩ := hs
      exact ⟨issue, (same issue).mpr hi, hf, ho⟩
    | closed =>
      rw [state?_ofIssues_eq_closed_iff] at hs ⊢
      obtain ⟨⟨issue, hi, hf⟩, closed⟩ := hs
      exact ⟨⟨issue, (same issue).mpr hi, hf⟩, fun other ho => closed other ((same other).mp ho)⟩

theorem classify_ofIssues_congr (same : ∀ issue, issue ∈ more ↔ issue ∈ issues) (f : Text) :
    (ofIssues more).classify f = (ofIssues issues).classify f := by
  rw [classify, classify, state?_ofIssues_congr same]

theorem size_ofIssues_congr (same : ∀ issue, issue ∈ more ↔ issue ∈ issues) :
    (ofIssues more).size = (ofIssues issues).size := by
  have fingerprints : (more.map fun issue => fingerprint issue.title).toFinset =
      (issues.map fun issue => fingerprint issue.title).toFinset := by
    ext f
    simp only [List.mem_toFinset, List.mem_map, same]
  rw [size_ofIssues, size_ofIssues, fingerprints]

/-- The inventory of a listing has an entry for each fingerprint of a listed title and no other; it is open if an
open issue has it, and closed if only closed ones do. A listing of the same issues, in any order and each any number
of times, gives the same classification of every hit, whatever was filed before it, and as many entries. -/
theorem ofIssues_tells_listed (issues : List ExistingIssue) :
    let inventory := ofIssues issues
    (∀ f, (inventory.state? f = none ↔ ∀ issue ∈ issues, fingerprint issue.title ≠ f) ∧
      (inventory.state? f = some .isOpen ↔
        ∃ issue ∈ issues, fingerprint issue.title = f ∧ issue.state = .isOpen) ∧
      (inventory.state? f = some .closed ↔ (∃ issue ∈ issues, fingerprint issue.title = f) ∧
        ∀ issue ∈ issues, fingerprint issue.title = f → issue.state = .closed)) ∧
      inventory.size = (issues.map fun issue => fingerprint issue.title).toFinset.card ∧
      (∀ issue ∈ issues, issue.state = .isOpen → inventory.classify (fingerprint issue.title) = .duplicateOpen) ∧
      ∀ more : List ExistingIssue, (∀ issue, issue ∈ more ↔ issue ∈ issues) →
        (ofIssues more).size = inventory.size ∧
        (∀ f, (ofIssues more).classify f = inventory.classify f) ∧
        ∀ (σ : Type) (tracker : Option (Tracker σ)) (cap : Nat) (p : Progress σ) (h : Hit),
          (⟨tracker, ofIssues more, cap⟩ : Reconciler σ).classify p h =
            (⟨tracker, inventory, cap⟩ : Reconciler σ).classify p h := by
  intro inventory
  refine ⟨fun f => ⟨state?_ofIssues_eq_none_iff, state?_ofIssues_eq_open_iff, state?_ofIssues_eq_closed_iff⟩,
    size_ofIssues issues, fun issue hi ho => ?_, fun more same => ⟨size_ofIssues_congr same,
    classify_ofIssues_congr same, fun σ tracker cap p h => ?_⟩⟩
  · rw [classify, state?_ofIssues_eq_open_iff.mpr ⟨issue, hi, rfl, ho⟩]
  · rw [Reconciler.classify, Reconciler.classify, classify_ofIssues_congr same]

/-- The title `t` is open between two closed issues of it and `u` is closed; the same issues in another order, one of
them twice, leave both as they are. -/
theorem ofIssues_tells_open_between_closed :
    let issues : List ExistingIssue := [⟨['t'], .closed⟩, ⟨['t'], .isOpen⟩, ⟨['t'], .closed⟩, ⟨['u'], .closed⟩]
    let more : List ExistingIssue := [⟨['u'], .closed⟩, ⟨['t'], .isOpen⟩, ⟨['u'], .closed⟩, ⟨['t'], .closed⟩]
    (∀ issue, issue ∈ more ↔ issue ∈ issues) ∧ (ofIssues issues).state? (fingerprint ['t']) = some .isOpen ∧
      (ofIssues issues).state? (fingerprint ['u']) = some .closed ∧ (ofIssues issues).size = 2 ∧
      (ofIssues more).size = 2 ∧ (ofIssues more).classify (fingerprint ['t']) = .duplicateOpen ∧
      (ofIssues more).classify (fingerprint ['u']) = .duplicateClosed := by
  intro issues more
  have same : ∀ issue, issue ∈ more ↔ issue ∈ issues := by
    intro issue
    simp only [more, issues, List.mem_cons, List.not_mem_nil, or_false]
    tauto
  obtain ⟨states, size, opened, relisted⟩ := ofIssues_tells_listed issues
  obtain ⟨size_more, classified, -⟩ := relisted more same
  have two : (issues.map fun issue => fingerprint issue.title).toFinset.card = 2 := by decide +kernel
  have t_open : (ofIssues issues).state? (fingerprint ['t']) = some .isOpen :=
    (states _).2.1.mpr ⟨⟨['t'], .isOpen⟩, by simp [issues], rfl, rfl⟩
  have u_closed : (ofIssues issues).state? (fingerprint ['u']) = some .closed :=
    (states _).2.2.mpr (by decide +kernel)
  refine ⟨same, t_open, u_closed, size.trans two, size_more.trans (size.trans two), ?_, ?_⟩
  · rw [classified]
    exact opened ⟨['t'], .isOpen⟩ (by simp [issues]) rfl
  · rw [classified, classify, u_closed]

end TodoLedger.Inventory
