import TodoLedger.Disk.Survey
import TodoLedger.Proofs.Disk.Follow
import TodoLedger.Proofs.Path

/-! Sound disks: each location holds one thing, and stands in a directory. What a path leads to stands where the path
leads. -/

namespace TodoLedger.Disk

/-- A disk as a file system keeps it. -/
structure Sound (d : Disk) : Prop where
  once : (d.nodes.map (·.1)).Nodup
  named : ∀ p ∈ d.nodes, ∀ name ∈ p.1, Path.IsName name
  inDirectory : ∀ p ∈ d.nodes, d.node? p.1.dropLast = some .directory
  current : d.node? d.current = some .directory

instance (d : Disk) : Decidable d.Sound :=
  decidable_of_iff ((d.nodes.map (·.1)).Nodup ∧ (∀ p ∈ d.nodes, ∀ name ∈ p.1, Path.IsName name) ∧
      (∀ p ∈ d.nodes, d.node? p.1.dropLast = some .directory) ∧ d.node? d.current = some .directory)
    ⟨fun ⟨once, named, inDirectory, current⟩ => ⟨once, named, inDirectory, current⟩,
      fun h => ⟨h.once, h.named, h.inDirectory, h.current⟩⟩

variable {d : Disk} {directory location : List Text} {n : Node} {name path : Text}

/-! ### Locations -/

theorem mem_of_node? (h : d.node? location = some n) (below : location ≠ []) : (location, n) ∈ d.nodes := by
  rw [node?, if_neg (by simpa using below), List.lookup_eq_some_iff] at h
  obtain ⟨front, back, eq, -⟩ := h
  rw [eq]
  exact List.mem_append_right _ List.mem_cons_self

theorem Sound.node?_of_mem (sound : d.Sound) (mem : (location, n) ∈ d.nodes) (below : location ≠ []) :
    d.node? location = some n := by
  obtain ⟨front, back, eq⟩ := List.append_of_mem mem
  have once := sound.once
  rw [eq, List.map_append, List.map_cons, List.nodup_append] at once
  rw [node?, if_neg (by simpa using below), List.lookup_eq_some_iff]
  refine ⟨front, back, eq, fun p hp => ?_⟩
  have other : p.1 ≠ location := fun same =>
    once.2.2 _ (List.mem_map_of_mem hp) _ List.mem_cons_self same
  simpa using other.symm

theorem Sound.parent (sound : d.Sound) (h : d.node? location = some n) : d.node? location.dropLast = some .directory := by
  by_cases below : location = []
  · rw [below]
    rfl
  · exact sound.inDirectory _ (mem_of_node? h below)

theorem Sound.isName (sound : d.Sound) (h : d.node? (directory ++ [name]) = some n) : Path.IsName name :=
  sound.named _ (mem_of_node? h (by simp)) name (by simp)

/-! ### Entries -/

theorem nameIn?_eq_some_iff : nameIn? directory location = some name ↔ location = directory ++ [name] := by
  rw [nameIn?]
  constructor
  · intro h
    split at h
    · rename_i only
      cases h
      exact (List.isPrefixOf?_eq_some_iff_append_eq.mp only).symm
    · cases h
  · rintro rfl
    have only : directory.isPrefixOf? (directory ++ [name]) = some [name] :=
      List.isPrefixOf?_eq_some_iff_append_eq.mpr rfl
    rw [only]

theorem Sound.mem_entries_iff (sound : d.Sound) :
    (name, n) ∈ d.entries directory ↔ d.node? (directory ++ [name]) = some n := by
  rw [entries, List.mem_mergeSort, List.mem_filterMap]
  constructor
  · rintro ⟨⟨location, node⟩, mem, eq⟩
    obtain ⟨found, inside, same⟩ := Option.map_eq_some_iff.mp eq
    cases same
    obtain rfl := nameIn?_eq_some_iff.mp inside
    exact sound.node?_of_mem mem (by simp)
  · intro h
    refine ⟨_, mem_of_node? h (by simp), ?_⟩
    exact Option.map_eq_some_iff.mpr ⟨name, nameIn?_eq_some_iff.mpr rfl, rfl⟩

/-- The names in a directory are distinct and ascending. -/
theorem Sound.entries_ascending (sound : d.Sound) (directory : List Text) :
    (d.entries directory).Pairwise fun a b => a.1 < b.1 := by
  have not_after : ∀ a b : Text × Node, (!Text.precedes b.1 a.1) = true ↔ ¬b.1 < a.1 := fun a b => by
    rw [Text.precedes, Bool.not_eq_true', decide_eq_false_iff_not]
  have ordered : (d.entries directory).Pairwise fun a b => !Text.precedes b.1 a.1 := by
    refine List.pairwise_mergeSort (fun a b c ab bc => ?_) (fun a b => ?_) _
    · rw [not_after] at ab bc ⊢
      exact List.not_lt.mpr (List.le_trans (List.not_lt.mp ab) (List.not_lt.mp bc))
    · rw [Bool.or_eq_true, not_after, not_after]
      exact (List.le_total a.1 b.1).imp List.not_lt.mpr List.not_lt.mpr
  have distinct : (d.entries directory).Pairwise fun a b => a.1 ≠ b.1 := by
    refine (List.mergeSort_perm _ _).symm.pairwise ?_ (fun h => h.symm)
    refine List.Pairwise.filterMap _ (fun p q other a ha b hb same => ?_) (List.pairwise_map.mp sound.once)
    obtain ⟨x, hx, rfl⟩ := Option.map_eq_some_iff.mp ha
    obtain ⟨y, hy, rfl⟩ := Option.map_eq_some_iff.mp hb
    rw [nameIn?_eq_some_iff] at hx hy
    exact other (hx.trans ((congrArg (fun name => directory ++ [name]) same).trans hy.symm))
  refine (ordered.and distinct).imp fun {a b} h => ?_
  exact (List.le_iff_lt_or_eq.mp (List.not_lt.mp ((not_after a b).mp h.1))).resolve_right h.2

/-! ### Where paths lead -/

theorem node?_startOf (start : d.node? directory = some .directory) (path : Text) :
    d.node? (startOf directory path) = some .directory := by
  rw [startOf]
  split_ifs
  · rfl
  · exact start

/-- Segments lead from a directory to what stands at a place, or to a directory from which there is more to follow. -/
theorem Sound.follows (sound : d.Sound) {segments : List Text} {leg : Leg}
    (start : d.node? directory = some .directory) :
    d.Follows directory segments leg →
      match leg with
      | .arrived p => ∀ n, p.node = some n → d.node? p.location = some n
      | .turned location _ => d.node? location = some .directory := by
  intro follows
  -- the directory that the segments start from is there all the way
  induction follows with
  | nil directory => exact fun n here => start.trans here
  | here _ ih => exact ih start
  | up _ ih => exact ih (sound.parent start)
  | down names there _ ih => exact ih there
  | last names ends => exact fun n here => here
  | link more names there => exact node?_startOf start _

theorem Sound.reaches (sound : d.Sound) {links : Nat} {segments : List Text} {p : Place}
    (reaches : d.Reaches links directory segments p) (start : d.node? directory = some .directory)
    (here : p.node = some n) : d.node? p.location = some n := by
  induction reaches with
  | arrived links leg => exact sound.follows start leg n here
  | turned leg _ ih => exact ih (sound.follows start leg) here

/-- What stands at the end of a path stands on the disk. -/
theorem Sound.existing (sound : d.Sound) (found : d.existing path = .ok (location, n)) : d.node? location = some n :=
  sound.reaches (existing_eq_ok_iff.mp found).2 (node?_startOf sound.current path) rfl

/-- A directory that is found stands on the disk. -/
theorem Sound.sight (sound : d.Sound) (found : d.sight path = .directory location) :
    d.node? location = some .directory := by
  rw [Disk.sight] at found
  split at found
  · cases found
  · rename_i eq
    cases found
    exact sound.existing eq
  · cases found

end TodoLedger.Disk
