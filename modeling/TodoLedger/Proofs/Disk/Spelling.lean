import TodoLedger.Proofs.Disk.Follow

/-! Spellings of a path. Dots and repeated slashes between the names of a path mean nothing. So paths that start at the
same place and have the same names lead to the same file, if they lead to a file: behind its name a slash or a dot keeps
it from being read. -/

namespace TodoLedger

/-! ### Paths -/

namespace Path

/-- Paths that start at the same place and have the same names. -/
def Alike (p q : Text) : Prop := (parts p).rooted = (parts q).rooted ∧ names p = names q

instance (p q : Text) : Decidable (Alike p q) := inferInstanceAs (Decidable (_ ∧ _))

variable {p q : Text}

theorem Alike.extension (alike : Alike p q) : extension p = extension q := by
  rw [Path.extension, Path.extension, fileName?, fileName?, alike.2]

theorem rooted_parts (p : Text) : (parts p).rooted = isAbsolute p := by
  cases p with
  | nil => rfl
  | cons c p =>
    rw [parts, List.splitOn_cons_eq_if_modifyHead]
    by_cases slash : c = '/'
    · cases split : p.splitOn '/' with
      | nil => exact absurd split (List.splitOn_ne_nil _ _)
      | cons first more => simp [slash, isAbsolute]
    · have relative : isAbsolute (c :: p) = false := by
        rw [isAbsolute]
        exact fun _ same => slash (List.cons.inj same).1
      rw [if_neg (by simpa using slash), relative]
      cases split : p.splitOn '/' with
      | nil => exact absurd split (List.splitOn_ne_nil _ _)
      | cons first more =>
        simp only [List.modifyHead_cons, List.isEmpty_cons, Bool.false_and, Bool.false_eq_true, if_false]
        split_ifs <;> rfl

end Path

namespace Disk

variable {d : Disk} {p q : Text} {a b directory location : List Text} {links : Nat} {content content' : Bytes}

/-- The names of a path are its segments without the dots. -/
theorem filter_segments (p : Text) : ((segments p).filter fun s => s ≠ ['.']) = Path.names p := by
  have last : ((if p.getLast? == some '/' then [['.']] else []) : List Text).filter (fun s => s ≠ ['.']) = [] := by
    split_ifs <;> rfl
  have void : ∀ s : Text, (decide (s ≠ ['.']) && !s.isEmpty) = !Path.isVoid s := fun s => by
    cases empty : s.isEmpty <;> cases dot : s == ['.'] <;> simp_all [Path.isVoid]
  rw [segments, List.filter_append, last, List.append_nil, List.filter_filter, Path.names, Path.parts]
  simp only [void]
  cases split : p.splitOn '/' with
  | nil => rfl
  | cons first more =>
    dsimp only
    split_ifs with rooted here
    · -- nothing stands before the first slash
      have empty : first = [] := by simpa using (Bool.and_eq_true_iff.mp rooted).1
      simp [empty, Path.isVoid]
    · simp [beq_iff_eq.mp here, Path.isVoid]
    · rfl

/-! ### Segments without dots -/

/-- The second list of segments is the first without some of its dots. -/
inductive Undotted : List Text → List Text → Prop where
  | nil : Undotted [] []
  | keep (s : Text) {a b : List Text} (rest : Undotted a b) : Undotted (s :: a) (s :: b)
  | drop {a b : List Text} (rest : Undotted a b) : Undotted (['.'] :: a) b

theorem undotted_filter (a : List Text) : Undotted a (a.filter fun s => s ≠ ['.']) := by
  induction a with
  | nil => exact .nil
  | cons s a ih =>
    by_cases dot : s = ['.']
    · rw [dot, List.filter_cons_of_neg (by simp)]
      exact .drop ih
    · rw [List.filter_cons_of_pos (by simpa using dot)]
      exact .keep s ih

theorem Undotted.append_left (undotted : Undotted a b) (front : List Text) : Undotted (front ++ a) (front ++ b) := by
  induction front with
  | nil => exact undotted
  | cons s front ih => exact .keep s ih

theorem Undotted.eq_nil (undotted : Undotted [] b) : b = [] := by
  cases undotted
  rfl

/-- A leg without some of the dots that are left to follow. -/
inductive Leg.Undotted : Leg → Leg → Prop where
  | arrived (p : Place) : Leg.Undotted (.arrived p) (.arrived p)
  | turned (location : List Text) {a b : List Text} (rest : Disk.Undotted a b) :
      Leg.Undotted (.turned location a) (.turned location b)

/-- Segments that can be followed can be followed without their dots, to the same place or over the same link. -/
theorem Undotted.follows {leg : Leg} (undotted : Undotted a b) (follows : d.Follows directory a leg) :
    ∃ leg', leg.Undotted leg' ∧ d.Follows directory b leg' := by
  induction follows generalizing b with
  | nil directory =>
    cases undotted
    exact ⟨_, .arrived _, .nil directory⟩
  | here _ ih =>
    cases undotted with
    | keep _ rest =>
      obtain ⟨leg', same, follows⟩ := ih rest
      exact ⟨leg', same, .here follows⟩
    | drop rest => exact ih rest
  | up _ ih =>
    cases undotted with
    | keep _ rest =>
      obtain ⟨leg', same, follows⟩ := ih rest
      exact ⟨leg', same, .up follows⟩
  | down names there _ ih =>
    cases undotted with
    | keep _ rest =>
      obtain ⟨leg', same, follows⟩ := ih rest
      exact ⟨leg', same, .down names there follows⟩
    | drop rest => exact absurd rfl names.notHere
  | last names ends =>
    -- what is no directory stands at the end, where no dots are left to drop
    cases undotted with
    | keep _ rest =>
      rw [rest.eq_nil]
      exact ⟨_, .arrived _, .last names ends⟩
    | drop rest => exact absurd rfl names.notHere
  | link more names there =>
    cases undotted with
    | keep _ rest => exact ⟨_, .turned _ (rest.append_left _), .link _ names there⟩
    | drop rest => exact absurd rfl names.notHere

theorem Undotted.reaches {place : Place} (undotted : Undotted a b) (reaches : d.Reaches links directory a place) :
    d.Reaches links directory b place := by
  induction reaches generalizing b with
  | arrived links leg =>
    obtain ⟨_, same, follows⟩ := undotted.follows leg
    cases same
    exact .arrived links follows
  | turned leg _ ih =>
    obtain ⟨_, same, follows⟩ := undotted.follows leg
    cases same with
    | turned _ rest => exact .turned follows (ih rest)

/-! ### Files -/

/-- What is found under two paths that are alike is found at one place. -/
theorem existing_alike {location' : List Text} {node node' : Node} (alike : Path.Alike p q)
    (hp : d.existing p = .ok (location, node)) (hq : d.existing q = .ok (location', node')) :
    location = location' ∧ node = node' := by
  have start : startOf d.current p = startOf d.current q := by
    rw [startOf, startOf, ← Path.rooted_parts, ← Path.rooted_parts, alike.1]
  have undotted : ∀ p, Undotted (segments p) (Path.names p) := fun p => filter_segments p ▸ undotted_filter (segments p)
  have at_p := (undotted p).reaches (existing_eq_ok_iff.mp hp).2
  have at_q := (undotted q).reaches (existing_eq_ok_iff.mp hq).2
  rw [start, alike.2] at at_p
  cases at_p.eq at_q
  exact ⟨rfl, rfl⟩

theorem read_alike (alike : Path.Alike p q) (hp : d.read p = .ok content) (hq : d.read q = .ok content') :
    content = content' := by
  obtain ⟨_, hp⟩ := read_eq_ok_iff.mp hp
  obtain ⟨_, hq⟩ := read_eq_ok_iff.mp hq
  cases (existing_alike alike hp hq).2
  rfl

end Disk
end TodoLedger
