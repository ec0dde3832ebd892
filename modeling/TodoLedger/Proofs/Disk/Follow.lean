import Mathlib.Data.List.Basic
import TodoLedger.Disk.Access

/-! Where paths lead, as relations. A path is followed segment by segment up to a link, and over a link from another
directory on; what is said of paths is shown by induction on the way that they take. -/

namespace TodoLedger.Disk

/-- A path cannot go on from what stands at its end: a file, or nothing. -/
def Ends : Option Node → Prop
  | none | some (.file _) => True
  | some .directory | some (.link _) => False

/-- A segment that names an entry. -/
structure Names (s : Text) : Prop where
  notHere : s ≠ ['.']
  notUp : s ≠ ['.', '.']
  short : (Text.utf8 s).length ≤ maxName

/-- Segments lead from a directory to a place, or to a link and over it. -/
inductive Follows (d : Disk) : List Text → List Text → Leg → Prop where
  | nil (directory : List Text) : Follows d directory [] (.arrived ⟨directory, some .directory⟩)
  | here {directory more : List Text} {leg : Leg} (rest : Follows d directory more leg) :
      Follows d directory (['.'] :: more) leg
  | up {directory more : List Text} {leg : Leg} (rest : Follows d directory.dropLast more leg) :
      Follows d directory (['.', '.'] :: more) leg
  | down {directory more : List Text} {s : Text} {leg : Leg} (names : Names s)
      (there : d.node? (directory ++ [s]) = some .directory) (rest : Follows d (directory ++ [s]) more leg) :
      Follows d directory (s :: more) leg
  | last {directory : List Text} {s : Text} (names : Names s) (ends : Ends (d.node? (directory ++ [s]))) :
      Follows d directory [s] (.arrived ⟨directory ++ [s], d.node? (directory ++ [s])⟩)
  | link {directory : List Text} {s target : Text} (more : List Text) (names : Names s)
      (there : d.node? (directory ++ [s]) = some (.link target)) :
      Follows d directory (s :: more) (.turned (startOf directory target) (segments target ++ more))

/-- Segments lead from a directory to a place over at most so many links. -/
inductive Reaches (d : Disk) : Nat → List Text → List Text → Place → Prop where
  | arrived (links : Nat) {directory segments : List Text} {place : Place}
      (leg : Follows d directory segments (.arrived place)) : Reaches d links directory segments place
  | turned {links : Nat} {directory segments inner rest : List Text} {place : Place}
      (leg : Follows d directory segments (.turned inner rest)) (rest : Reaches d links inner rest place) :
      Reaches d (links + 1) directory segments place

variable {d : Disk} {directory location segments more : List Text} {s path : Text} {n : Node} {leg : Leg}
  {place : Place} {links : Nat} {content : Bytes}

theorem follow_of_names (names : Names s) (d : Disk) (directory more : List Text) :
    d.follow true directory (s :: more) =
      match d.node? (directory ++ [s]) with
      | some .directory => d.follow true (directory ++ [s]) more
      | some (.link target) => .ok (.turned (startOf directory target) (Disk.segments target ++ more))
      | some (.file content) =>
        if more.isEmpty then .ok (.arrived ⟨directory ++ [s], some (.file content)⟩) else .error .notDirectory
      | none => if more.isEmpty then .ok (.arrived ⟨directory ++ [s], none⟩) else .error .notFound := by
  rw [follow, if_neg names.notHere, if_neg names.notUp, if_neg (Nat.not_lt.mpr names.short)]
  dsimp only
  cases d.node? (directory ++ [s]) with
  | none => rfl
  | some n =>
    cases n with
    | directory => rfl
    | file content => rfl
    | link target => simp

theorem Follows.of_follow (leads : d.follow true directory segments = .ok leg) : d.Follows directory segments leg := by
  induction segments generalizing directory with
  | nil =>
    cases leads
    exact .nil directory
  | cons s more ih =>
    by_cases here : s = ['.']
    · rw [follow, if_pos here] at leads
      exact here ▸ .here (ih leads)
    by_cases up : s = ['.', '.']
    · rw [follow, if_neg here, if_pos up] at leads
      exact up ▸ .up (ih leads)
    by_cases long : maxName < (Text.utf8 s).length
    · rw [follow, if_neg here, if_neg up, if_pos long] at leads
      cases leads
    have names : Names s := ⟨here, up, Nat.not_lt.mp long⟩
    rw [follow_of_names names] at leads
    have last : ∀ n, Ends n → d.node? (directory ++ [s]) = n → more.isEmpty = true →
        d.Follows directory (s :: more) (.arrived ⟨directory ++ [s], n⟩) := by
      intro n ends there alone
      rw [List.isEmpty_iff.mp alone, ← there]
      exact .last names (there ▸ ends)
    split at leads
    · exact .down names ‹_› (ih leads)
    · cases leads
      exact .link more names ‹_›
    · split_ifs at leads with alone
      cases leads
      exact last _ trivial ‹_› alone
    · split_ifs at leads with alone
      cases leads
      exact last _ trivial ‹_› alone

theorem follow_eq_ok_iff : d.follow true directory segments = .ok leg ↔ d.Follows directory segments leg := by
  refine ⟨Follows.of_follow, fun follows => ?_⟩
  induction follows with
  | nil directory => rfl
  | here _ ih => rwa [follow, if_pos rfl]
  | up _ ih => rwa [follow, if_neg (by decide), if_pos rfl]
  | down names there _ ih => rwa [follow_of_names names, there]
  | @last directory s names ends =>
    rw [follow_of_names names]
    cases there : d.node? (directory ++ [s]) with
    | none => rfl
    | some n =>
      rw [there] at ends
      cases n with
      | file content => rfl
      | directory => exact ends.elim
      | link target => exact ends.elim
  | link more names there => rw [follow_of_names names, there]

theorem resolve_eq_ok_iff :
    d.resolve true links directory segments = .ok place ↔ d.Reaches links directory segments place := by
  constructor
  · intro leads
    fun_induction Disk.resolve d true links directory segments with
    | case1 links directory segments e eq => cases leads
    | case2 links directory segments p eq =>
      cases leads
      exact .arrived links (follow_eq_ok_iff.mp eq)
    | case3 directory segments inner rest eq => cases leads
    | case4 directory segments inner rest eq links ih => exact .turned (follow_eq_ok_iff.mp eq) (ih leads)
  · intro reaches
    induction reaches with
    | arrived links leg => rw [resolve, follow_eq_ok_iff.mpr leg]
    | turned leg _ ih => rwa [resolve, follow_eq_ok_iff.mpr leg]

/-- A path leads to no more than one place. -/
theorem Reaches.eq {place' : Place} (reaches : d.Reaches links directory segments place)
    (other : d.Reaches links directory segments place') : place = place' :=
  Except.ok.inj ((resolve_eq_ok_iff.mpr reaches).symm.trans (resolve_eq_ok_iff.mpr other))

/-! ### Paths -/

theorem place_eq_ok_iff : d.place path true = .ok place ↔
    checkPath path = .ok () ∧ d.Reaches maxLinks (startOf d.current path) (Disk.segments path) place := by
  rw [Disk.place, ← resolve_eq_ok_iff]
  cases checkPath path with
  | error e => exact iff_of_false nofun fun h => nomatch h.1
  | ok _ => exact (and_iff_right rfl).symm

theorem existing_eq_ok_iff : d.existing path = .ok (location, n) ↔
    checkPath path = .ok () ∧
      d.Reaches maxLinks (startOf d.current path) (Disk.segments path) ⟨location, some n⟩ := by
  rw [← place_eq_ok_iff, existing]
  cases d.place path true with
  | error e => exact iff_of_false nofun nofun
  | ok place =>
    obtain ⟨location', n'⟩ := place
    cases n' with
    | none => exact iff_of_false nofun fun h => nomatch congrArg (·.map (·.node)) h
    | some n' =>
      change Except.ok (location', n') = _ ↔ Except.ok (Place.mk location' (some n')) = _
      simp

theorem read_eq_ok_iff : d.read path = .ok content ↔ ∃ location, d.existing path = .ok (location, .file content) := by
  rw [read]
  cases d.existing path with
  | error e => exact iff_of_false nofun nofun
  | ok found =>
    obtain ⟨location, node⟩ := found
    cases node with
    | file before =>
      change Except.ok before = _ ↔ _
      simp
    | directory => exact iff_of_false nofun nofun
    | link target => exact iff_of_false nofun nofun

end TodoLedger.Disk
