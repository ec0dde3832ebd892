import TodoLedger.Proofs.Disk.Sound
import TodoLedger.Proofs.Ignore.Walk
import TodoLedger.Proofs.Text.Order

/-! What names lead to, and that a walk finds it. A walk leaves out a link to a directory it stands in, and goes only so
deep; where no directory leads back to itself, neither takes anything away. -/

namespace TodoLedger.Disk

/-- Names lead from a directory, which `path` leads to, to what is seen at the end of them, links followed. It does not
matter what has been visited. -/
inductive Leads (d : Disk) : (path : Text) → (location names : List Text) → Sight → Prop where
  | here {path : Text} {location : List Text} : Leads d path location [] (.directory location)
  | last {path name : Text} {location : List Text} {node : Node} (stands : d.node? (location ++ [name]) = some node)
      (seen : d.sightIn [] (Path.join path name) node = .file) : Leads d path location [name] .file
  | inside {path name : Text} {location inner names : List Text} {node : Node} {s : Sight}
      (stands : d.node? (location ++ [name]) = some node)
      (seen : d.sightIn [] (Path.join path name) node = .directory inner)
      (rest : Leads d (Path.join path name) inner names s) : Leads d path location (name :: names) s

/-- Names lead from a root to what is seen at the end of them. -/
def Finds (d : Disk) (root : Text) (names : List Text) (s : Sight) : Prop :=
  match d.sight root with
  | .directory location => d.Leads root location names s
  | other => names = [] ∧ s = other

/-- No directory at a root or below it leads back to itself. -/
def Acyclic (d : Disk) (root : Text) : Prop :=
  ∀ front back location, d.Finds root front (.directory location) → d.Finds root (front ++ back) (.directory location) →
    back = []

variable {d : Disk} {root path name : Text} {location names front back inner : List Text} {node : Node} {s : Sight}
  {visited : Visited} {levels : Nat}

/-! ### What is seen -/

theorem sightIn_nil (d : Disk) (path : Text) (node : Node) : d.sightIn [] path node =
    match node with
    | .file _ => .file
    | _ => d.sight path := by
  cases node with
  | file content => rfl
  | directory => rfl
  | link target =>
    rw [sightIn]
    cases d.sight path <;> rfl

/-- Having visited a directory keeps no file from being seen, and no other directory. -/
theorem sightIn_cases (d : Disk) (visited : Visited) (path : Text) (node : Node) :
    d.sightIn visited path node = d.sightIn [] path node ∨
      ∃ location ancestor, d.sightIn [] path node = .directory location ∧ visited.lookup location = some ancestor ∧
        d.sightIn visited path node = .fault (.loop path ancestor) := by
  cases node with
  | file content => exact Or.inl rfl
  | directory => exact Or.inl rfl
  | link target =>
    simp only [sightIn]
    cases d.sight path with
    | fault f => exact Or.inl rfl
    | file => exact Or.inl rfl
    | directory location =>
      dsimp only
      cases been : visited.lookup location with
      | none => exact Or.inl rfl
      | some ancestor => exact Or.inr ⟨location, ancestor, rfl, been, rfl⟩

theorem sightIn_of_fresh (seen : d.sightIn [] path node = .directory location) (fresh : ∀ v ∈ visited, v.1 ≠ location) :
    d.sightIn visited path node = .directory location := by
  obtain same | ⟨location', ancestor, seen', been, -⟩ := d.sightIn_cases visited path node
  · exact same.trans seen
  · cases seen.symm.trans seen'
    have never : visited.lookup location = none :=
      List.lookup_eq_none_iff.mpr fun v hv => by simpa using (fresh v hv).symm
    cases never.symm.trans been

theorem sight_of_sightIn (seen : d.sightIn [] path node = .directory inner) : d.sight path = .directory inner := by
  rw [sightIn_nil] at seen
  cases node with
  | file content => cases seen
  | directory => exact seen
  | link target => exact seen

/-! ### Names -/

theorem Leads.isName (leads : d.Leads path location names s) (sound : d.Sound) : ∀ name ∈ names, Path.IsName name := by
  induction leads with
  | here => exact nofun
  | last stands seen => exact List.forall_mem_singleton.mpr (sound.isName stands)
  | inside stands seen rest ih => exact List.forall_mem_cons.mpr ⟨sound.isName stands, ih⟩

/-- What stands on the way to something is a directory. -/
theorem Leads.onTheWay (leads : d.Leads path location names s) (split : names = front ++ back) (f : front ≠ [])
    (b : back ≠ []) : ∃ inner, d.sight (Path.descend path front) = .directory inner := by
  induction leads generalizing front with
  | here => exact absurd (List.append_eq_nil_iff.mp split.symm).1 f
  | last stands seen =>
    cases front with
    | nil => exact absurd rfl f
    | cons name front => exact absurd (List.append_eq_nil_iff.mp (List.cons.inj split).2.symm).2 b
  | inside stands seen rest ih =>
    cases front with
    | nil => exact absurd rfl f
    | cons name front =>
      obtain ⟨rfl, same⟩ := List.cons.inj split
      by_cases last : front = []
      · rw [last]
        exact ⟨_, sight_of_sightIn seen⟩
      · exact ih same last

/-! ### The walk of a directory -/

/-- What an entry of a directory adds to a walk. -/
def entryWalk (d : Disk) (levels : Nat) (visited : Visited) (path : Text) (entry : Text × Node) : List (List Text) :=
  match d.sightIn visited (Path.join path entry.1) entry.2 with
  | .fault _ => []
  | .file => [[entry.1]]
  | .directory inner => (d.forest levels visited (Path.join path entry.1) inner).walk.map (entry.1 :: ·)

theorem walk_forest (d : Disk) (levels : Nat) (visited : Visited) (path : Text) (location : List Text) :
    (d.forest (levels + 1) visited path location).walk =
      (d.entries location).flatMap (d.entryWalk levels ((location, path) :: visited) path) := by
  rw [forest]
  induction d.entries location with
  | nil => rfl
  | cons entry entries ih =>
    rw [List.foldr_cons, List.flatMap_cons, ← ih, entryWalk]
    dsimp only
    cases d.sightIn ((location, path) :: visited) (Path.join path entry.1) entry.2 <;> rfl

theorem exists_of_mem_entryWalk {entry : Text × Node} (mem : names ∈ d.entryWalk levels visited path entry) :
    ∃ rest, names = entry.1 :: rest := by
  rw [entryWalk] at mem
  split at mem
  · cases mem
  · exact ⟨[], List.mem_singleton.mp mem⟩
  · obtain ⟨rest, -, rfl⟩ := List.mem_map.mp mem
    exact ⟨rest, rfl⟩

/-- A walk finds nothing but what names lead to. -/
theorem Sound.leads_of_mem_walk (sound : d.Sound) (mem : names ∈ (d.forest levels visited path location).walk) :
    d.Leads path location names .file := by
  induction levels generalizing visited path location names with
  | zero => cases mem
  | succ levels ih =>
    rw [walk_forest, List.mem_flatMap] at mem
    obtain ⟨⟨name, node⟩, entry, mem⟩ := mem
    have stands := sound.mem_entries_iff.mp entry
    rw [entryWalk] at mem
    have same := d.sightIn_cases ((location, path) :: visited) (Path.join path name) node
    cases seen : d.sightIn ((location, path) :: visited) (Path.join path name) node with
    | fault f =>
      rw [seen] at mem
      cases mem
    | file =>
      rw [seen] at mem same
      obtain same | ⟨_, _, _, _, loop⟩ := same
      · obtain rfl := List.mem_singleton.mp mem
        exact .last stands same.symm
      · cases loop
    | directory inner =>
      rw [seen] at mem same
      obtain same | ⟨_, _, _, _, loop⟩ := same
      · obtain ⟨rest, found, rfl⟩ := List.mem_map.mp mem
        exact .inside stands same.symm (ih found)
      · cases loop

/-- A walk goes through a directory in the order of the names in UTF-8. -/
theorem Sound.walk_ascending (sound : d.Sound) (levels : Nat) (visited : Visited) (path : Text) (location : List Text) :
    (d.forest levels visited path location).walk.Pairwise fun a b => a.map Text.utf8 < b.map Text.utf8 := by
  induction levels generalizing visited path location with
  | zero => exact .nil
  | succ levels ih =>
    rw [walk_forest, List.pairwise_flatMap]
    constructor
    · intro entry _
      rw [entryWalk]
      split
      · exact .nil
      · exact List.pairwise_singleton _ _
      · rename_i inner _
        refine List.pairwise_map.mpr ((ih _ _ inner).imp fun less => ?_)
        exact List.cons_lt_cons_iff.mpr (Or.inr ⟨rfl, less⟩)
    · -- what comes from two entries differs in the first name
      refine (sound.entries_ascending location).imp fun {a b} less x hx y hy => ?_
      obtain ⟨rest, rfl⟩ := exists_of_mem_entryWalk hx
      obtain ⟨rest', rfl⟩ := exists_of_mem_entryWalk hy
      exact List.cons_lt_cons_iff.mpr (Or.inl (Text.utf8_lt less))

/-! ### Levels -/

/-- The locations at which nothing has been visited. -/
def unvisited (d : Disk) (visited : Visited) : List (List Text) :=
  ([] :: d.nodes.map (·.1)).filter fun location => visited.all (·.1 != location)

theorem mem_unvisited (there : d.node? location = some node) (fresh : ∀ v ∈ visited, v.1 ≠ location) :
    location ∈ d.unvisited visited := by
  refine List.mem_filter.mpr ⟨?_, by simpa using fresh⟩
  by_cases below : location = []
  · exact below ▸ List.mem_cons_self
  · exact List.mem_cons_of_mem _ (List.mem_map_of_mem (mem_of_node? there below))

theorem unvisited_cons_lt (mem : location ∈ d.unvisited visited) (path : Text) :
    (d.unvisited ((location, path) :: visited)).length < (d.unvisited visited).length := by
  have fewer : d.unvisited ((location, path) :: visited) = (d.unvisited visited).filter (location != ·) := by
    rw [unvisited, unvisited, List.filter_filter]
    rfl
  rw [fewer, List.length_filter_lt_length_iff_exists]
  exact ⟨location, mem, by simp⟩

/-- A directory that a walk comes to for the first time, with levels left for all below it. -/
structure Clear (d : Disk) (levels : Nat) (visited : Visited) (path : Text) (location : List Text) : Prop where
  there : d.node? location = some .directory
  acyclic : ∀ front back inner, d.Leads path location front (.directory inner) →
    d.Leads path location (front ++ back) (.directory inner) → back = []
  fresh : ∀ names inner, d.Leads path location names (.directory inner) → ∀ v ∈ visited, v.1 ≠ inner
  room : (d.unvisited visited).length ≤ levels

theorem Clear.lt (clear : d.Clear levels visited path location) :
    (d.unvisited ((location, path) :: visited)).length < levels :=
  Nat.lt_of_lt_of_le (unvisited_cons_lt (mem_unvisited clear.there (clear.fresh [] location .here)) path) clear.room

/-- A directory in one that is clear is clear, and is seen. -/
theorem Clear.inside (clear : d.Clear (levels + 1) visited path location) (sound : d.Sound)
    (stands : d.node? (location ++ [name]) = some node)
    (seen : d.sightIn [] (Path.join path name) node = .directory inner) :
    d.Clear levels ((location, path) :: visited) (Path.join path name) inner ∧
      d.sightIn ((location, path) :: visited) (Path.join path name) node = .directory inner := by
  have fresh : ∀ names l, d.Leads (Path.join path name) inner names (.directory l) →
      ∀ v ∈ (location, path) :: visited, v.1 ≠ l := by
    intro names l leads
    refine List.forall_mem_cons.mpr ⟨?_, clear.fresh (name :: names) l (.inside stands seen leads)⟩
    -- otherwise the directory itself would be below itself
    rintro rfl
    exact absurd (clear.acyclic [] (name :: names) location .here (.inside stands seen leads)) (List.cons_ne_nil _ _)
  refine ⟨⟨sound.sight (sight_of_sightIn seen), ?_, fresh, Nat.le_of_lt_succ clear.lt⟩,
    sightIn_of_fresh seen (fresh [] inner .here)⟩
  intro front back l one other
  exact clear.acyclic (name :: front) back l (.inside stands seen one) (.inside stands seen other)

/-- A walk that comes to a clear directory finds all that names lead to. -/
theorem Sound.mem_walk_of_leads (sound : d.Sound) (leads : d.Leads path location names .file)
    (clear : d.Clear levels visited path location) : names ∈ (d.forest levels visited path location).walk := by
  generalize file : Sight.file = s at leads
  -- each directory on the way uses up a level, and one location at which nothing has been visited
  induction leads generalizing levels visited with
  | here => cases file
  | last stands seen =>
    cases levels with
    | zero => exact absurd clear.lt (Nat.not_lt_zero _)
    | succ levels =>
      rw [walk_forest, List.mem_flatMap]
      refine ⟨_, sound.mem_entries_iff.mpr stands, ?_⟩
      rw [entryWalk]
      obtain same | ⟨_, _, directory, _⟩ := d.sightIn_cases ((_, _) :: visited) _ _
      · rw [same, seen]
        exact List.mem_singleton_self _
      · cases seen.symm.trans directory
  | inside stands seen rest ih =>
    cases levels with
    | zero => exact absurd clear.lt (Nat.not_lt_zero _)
    | succ levels =>
      obtain ⟨inner, visible⟩ := clear.inside sound stands seen
      rw [walk_forest, List.mem_flatMap]
      refine ⟨_, sound.mem_entries_iff.mpr stands, ?_⟩
      rw [entryWalk]
      dsimp only
      rw [visible]
      exact List.mem_map_of_mem (ih inner file)

/-! ### The walk of a root -/

theorem unvisited_nil_le (d : Disk) : (d.unvisited []).length ≤ d.maxLevels := by
  refine Nat.le_trans (List.length_filter_le _ _) ?_
  rw [List.length_cons, List.length_map, maxLevels]
  exact Nat.le_mul_of_pos_right _ (Nat.succ_pos _)

/-- A walk finds the files that names lead to, and nothing else. -/
theorem Sound.mem_walk_iff (sound : d.Sound) (acyclic : d.Acyclic root) :
    names ∈ (d.survey root).walk ↔ d.Finds root names .file := by
  rw [survey, Finds]
  have back := acyclic
  simp only [Acyclic, Finds] at back
  cases at_root : d.sight root with
  | fault f => exact iff_of_false nofun nofun
  | file => simp [Survey.walk]
  | directory location =>
    rw [at_root] at back
    refine ⟨fun mem => sound.leads_of_mem_walk mem, fun leads => sound.mem_walk_of_leads leads ?_⟩
    exact ⟨sound.sight at_root, back, nofun, d.unvisited_nil_le⟩

end TodoLedger.Disk
