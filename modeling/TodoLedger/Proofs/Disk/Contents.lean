import Mathlib.Data.List.Sort
import TodoLedger.Proofs.Disk.Append
import TodoLedger.Proofs.Disk.Sound

/-! What files hold, and what is found without it. On two disks that differ in nothing else paths lead to the same places,
so a walk finds the same files on both. -/

namespace TodoLedger.Disk

/-- A disk that differs from another in nothing but what its files hold. -/
structure SameTree (d d' : Disk) : Prop where
  current : d'.current = d.current
  size : d'.nodes.length = d.nodes.length
  node : ∀ location, d'.node? location = d.node? location ∨
    ∃ before after, d.node? location = some (.file before) ∧ d'.node? location = some (.file after)

variable {d d' : Disk} {location directory : List Text} {n : Node} {name : Text} {before : Bytes}

/-! ### Where paths lead -/

namespace SameTree

theorem follow_cases (tree : SameTree d d') (last : Bool) (directory segments : List Text) :
    d'.follow last directory segments = d.follow last directory segments ∨
      ∃ location before after, d.follow last directory segments = .ok (.arrived ⟨location, some (.file before)⟩) ∧
        d'.follow last directory segments = .ok (.arrived ⟨location, some (.file after)⟩) := by
  induction segments generalizing directory with
  | nil => exact Or.inl rfl
  | cons s more ih =>
    rw [follow, follow]
    by_cases here : s = ['.']
    · rw [if_pos here, if_pos here]
      exact ih directory
    by_cases up : s = ['.', '.']
    · rw [if_neg here, if_pos up, if_neg here, if_pos up]
      exact ih directory.dropLast
    by_cases long : maxName < (Text.utf8 s).length
    · rw [if_neg here, if_neg up, if_pos long, if_neg here, if_neg up, if_pos long]
      exact Or.inl rfl
    rw [if_neg here, if_neg up, if_neg long, if_neg here, if_neg up, if_neg long]
    dsimp only
    obtain same | ⟨before, after, one, other⟩ := tree.node (directory ++ [s])
    · rw [same]
      cases d.node? (directory ++ [s]) with
      | none => exact Or.inl rfl
      | some n =>
        cases n with
        | directory => exact ih (directory ++ [s])
        | file content => exact Or.inl rfl
        | link target => exact Or.inl rfl
    · -- at a file a path ends, or fails
      rw [one, other]
      cases more with
      | nil => exact Or.inr ⟨directory ++ [s], before, after, rfl, rfl⟩
      | cons s' more => exact Or.inl rfl

theorem resolve_cases (tree : SameTree d d') (last : Bool) (links : Nat) (directory segments : List Text) :
    d'.resolve last links directory segments = d.resolve last links directory segments ∨
      ∃ location before after, d.resolve last links directory segments = .ok ⟨location, some (.file before)⟩ ∧
        d'.resolve last links directory segments = .ok ⟨location, some (.file after)⟩ := by
  induction links generalizing directory segments with
  | zero =>
    rw [resolve, resolve]
    obtain same | ⟨location, before, after, one, other⟩ := tree.follow_cases last directory segments
    · rw [same]
      exact Or.inl rfl
    · rw [one, other]
      exact Or.inr ⟨location, before, after, rfl, rfl⟩
  | succ links ih =>
    rw [resolve, resolve]
    obtain same | ⟨location, before, after, one, other⟩ := tree.follow_cases last directory segments
    · rw [same]
      split
      · exact Or.inl rfl
      · exact Or.inl rfl
      · exact ih _ _
    · rw [one, other]
      exact Or.inr ⟨location, before, after, rfl, rfl⟩

theorem existing_cases (tree : SameTree d d') (path : Text) : d'.existing path = d.existing path ∨
    ∃ location before after, d.existing path = .ok (location, .file before) ∧
      d'.existing path = .ok (location, .file after) := by
  rw [existing, existing, place, place, tree.current]
  cases checkPath path with
  | error e => exact Or.inl rfl
  | ok _ =>
    obtain same | ⟨location, before, after, one, other⟩ :=
      tree.resolve_cases true maxLinks (startOf d.current path) (segments path)
    · dsimp only [bind, Except.bind]
      rw [same]
      exact Or.inl rfl
    · dsimp only [bind, Except.bind]
      rw [one, other]
      exact Or.inr ⟨location, before, after, rfl, rfl⟩

theorem isDirectory_eq (tree : SameTree d d') (path : Text) : d'.isDirectory path = d.isDirectory path := by
  rw [isDirectory, isDirectory]
  obtain same | ⟨location, before, after, one, other⟩ := tree.existing_cases path
  · rw [same]
  · rw [one, other]

theorem sight_eq (tree : SameTree d d') (path : Text) : d'.sight path = d.sight path := by
  rw [sight, sight]
  obtain same | ⟨location, before, after, one, other⟩ := tree.existing_cases path
  · rw [same]
  · rw [one, other]

end SameTree

/-! ### What stands in a directory -/

/-- A node without what a file holds. -/
def Node.kind : Node → Node
  | .file _ => .file []
  | n => n

/-- An entry of a directory without what a file holds. -/
def entryKind (entry : Text × Node) : Text × Node := (entry.1, entry.2.kind)

theorem sightIn_kind (d : Disk) (visited : Visited) (path : Text) (n : Node) :
    d.sightIn visited path n.kind = d.sightIn visited path n := by
  cases n <;> rfl

theorem forest_succ (d : Disk) (levels : Nat) (visited : Visited) (path : Text) (location : List Text) :
    d.forest (levels + 1) visited path location =
      ((d.entries location).map entryKind).foldr (fun (name, node) more =>
        let inner := Path.join path name
        match d.sightIn ((location, path) :: visited) inner node with
        | .fault f => .fault f more
        | .file => .file name more
        | .directory below => .directory name (d.forest levels ((location, path) :: visited) inner below) more) .nil := by
  rw [List.foldr_map]
  simp only [entryKind, sightIn_kind]
  rfl

theorem Sound.mem_map_entries_iff (sound : d.Sound) : (name, n) ∈ (d.entries directory).map entryKind ↔
    (d.node? (directory ++ [name])).map Node.kind = some n := by
  rw [List.mem_map, Option.map_eq_some_iff]
  constructor
  · rintro ⟨⟨name, node⟩, mem, same⟩
    cases same
    exact ⟨node, sound.mem_entries_iff.mp mem, rfl⟩
  · rintro ⟨node, there, rfl⟩
    exact ⟨(name, node), sound.mem_entries_iff.mpr there, rfl⟩

namespace SameTree

theorem sightIn_eq (tree : SameTree d d') (visited : Visited) (path : Text) (n : Node) :
    d'.sightIn visited path n = d.sightIn visited path n := by
  cases n with
  | file content => rfl
  | directory => exact tree.sight_eq path
  | link target =>
    rw [sightIn, sightIn, tree.sight_eq]

theorem map_entries_eq (tree : SameTree d d') (sound : d.Sound) (sound' : d'.Sound) (directory : List Text) :
    (d'.entries directory).map entryKind = (d.entries directory).map entryKind := by
  have ascending : ∀ {d : Disk}, d.Sound → ((d.entries directory).map entryKind).Pairwise fun a b => a.1 < b.1 :=
    fun sound => List.pairwise_map.mpr (sound.entries_ascending directory)
  have : Std.Irrefl fun a b : Text × Node => a.1 < b.1 := ⟨fun a => List.lt_irrefl a.1⟩
  have : Std.Antisymm fun a b : Text × Node => a.1 < b.1 := ⟨fun a b ab ba => absurd ba (List.lt_asymm ab)⟩
  refine (ascending sound').eq_of_mem_iff (ascending sound) fun ⟨name, n⟩ => ?_
  rw [sound'.mem_map_entries_iff, sound.mem_map_entries_iff]
  obtain same | ⟨before, after, one, other⟩ := tree.node (directory ++ [name])
  · rw [same]
  · rw [one, other]
    rfl

theorem forest_eq (tree : SameTree d d') (sound : d.Sound) (sound' : d'.Sound) (levels : Nat) (visited : Visited)
    (path : Text) (location : List Text) :
    d'.forest levels visited path location = d.forest levels visited path location := by
  induction levels generalizing visited path location with
  | zero => rfl
  | succ levels ih =>
    rw [forest_succ, forest_succ, tree.map_entries_eq sound sound']
    simp only [tree.sightIn_eq, ih]

theorem survey_eq (tree : SameTree d d') (sound : d.Sound) (sound' : d'.Sound) (root : Text) :
    d'.survey root = d.survey root := by
  rw [survey, survey, tree.sight_eq, maxLevels, maxLevels, tree.size]
  cases d.sight root with
  | fault f => rfl
  | file => rfl
  | directory location => exact congrArg Survey.directory (tree.forest_eq sound sound' _ [] root location)

end SameTree

/-! ### Changing a file -/

theorem below_of_file (stands : d.node? location = some (.file before)) : location ≠ [] := by
  rintro rfl
  cases stands

theorem Sound.locations_put (sound : d.Sound) (stands : d.node? location = some n) (below : location ≠ []) (n' : Node) :
    ((d.put location n').nodes.map (·.1)).Perm (d.nodes.map (·.1)) := by
  have mem : location ∈ d.nodes.map (·.1) := List.mem_map_of_mem (mem_of_node? stands below)
  have others : (d.nodes.filter (·.1 != location)).map (·.1) = (d.nodes.map (·.1)).erase location := by
    rw [sound.once.erase_eq_filter, List.filter_map]
    rfl
  rw [put, List.map_append, others]
  exact List.perm_append_comm.trans (List.perm_cons_erase mem).symm

theorem Sound.sameTree_put (sound : d.Sound) (stands : d.node? location = some (.file before)) (after : Bytes) :
    SameTree d (d.put location (.file after)) := by
  have below := below_of_file stands
  refine ⟨rfl, ?_, fun l => ?_⟩
  · simpa using (sound.locations_put stands below (.file after)).length_eq
  · by_cases here : l = location
    · rw [here, node?_put_self below]
      exact Or.inr ⟨before, after, stands, rfl⟩
    · exact Or.inl (node?_put_of_ne here d _)

theorem Sound.put (sound : d.Sound) (stands : d.node? location = some (.file before)) (after : Bytes) :
    (d.put location (.file after)).Sound := by
  have below := below_of_file stands
  have locations := sound.locations_put stands below (.file after)
  have directory : ∀ l, d.node? l = some .directory → (d.put location (.file after)).node? l = some .directory := by
    intro l there
    obtain same | ⟨_, _, one, -⟩ := (sound.sameTree_put stands after).node l
    · exact same.trans there
    · cases one.symm.trans there
  have stood : ∀ p ∈ (d.put location (.file after)).nodes, ∃ q ∈ d.nodes, q.1 = p.1 := fun p mem =>
    List.mem_map.mp (locations.mem_iff.mp (List.mem_map_of_mem mem))
  refine ⟨locations.nodup_iff.mpr sound.once, ?_, ?_, directory _ sound.current⟩
  · intro p mem
    obtain ⟨q, mem, same⟩ := stood p mem
    exact same ▸ sound.named q mem
  · intro p mem
    obtain ⟨q, mem, same⟩ := stood p mem
    exact directory _ (same ▸ sound.inDirectory q mem)

end TodoLedger.Disk
