import TodoLedger.Proofs.Disk.Follow

/-! Files to which bytes are added. No path leads on over a file or over nothing, so when a file is made or changed, each
path leads to the location to which it led before. A file that is made holds what it would hold if that had been added. -/

namespace TodoLedger.Disk

variable {d d' : Disk} {location directory segments : List Text} {n : Node} {place : Place} {path : Text}
  {content : Bytes}

/-! ### Nodes -/

theorem node?_put_self (below : location ≠ []) (d : Disk) (n : Node) : (d.put location n).node? location = some n := by
  rw [node?, if_neg (by simpa using below), put, List.lookup_append]
  have removed : (d.nodes.filter (·.1 != location)).lookup location = none := by
    rw [List.lookup_eq_none_iff]
    intro entry mem
    have other := (List.mem_filter.mp mem).2
    rw [bne_iff_ne] at other
    exact bne_iff_ne.mpr other.symm
  simp [removed]

theorem node?_put_of_ne {l : List Text} (other : l ≠ location) (d : Disk) (n : Node) :
    (d.put location n).node? l = d.node? l := by
  have kept : ∀ nodes : List (List Text × Node), (nodes.filter (·.1 != location)).lookup l = nodes.lookup l := by
    intro nodes
    induction nodes with
    | nil => rfl
    | cons entry nodes ih =>
      by_cases here : entry.1 = location
      · have apart : (l == entry.1) = false := beq_eq_false_iff_ne.mpr (here ▸ other)
        rw [List.filter_cons_of_neg (by simpa using here), ih, List.lookup_cons, apart]
      · rw [List.filter_cons_of_pos (by simpa using here), List.lookup_cons, List.lookup_cons, ih]
  have last : List.lookup l [(location, n)] = none := by simp [other]
  rw [node?, node?, put, List.lookup_append, kept, last, Option.or_none]

/-! ### Where paths lead afterwards -/

/-- A disk that differs only where paths end anyway. -/
def Shares (d d' : Disk) : Prop := ∀ l, d'.node? l = d.node? l ∨ Ends (d.node? l) ∧ Ends (d'.node? l)

/-- At the root stands a directory, so no path ends there. -/
theorem below_of_ends (ends : Ends (d.node? location)) : location ≠ [] := by
  rintro rfl
  exact ends

theorem shares_put (ends : Ends (d.node? location)) (content : Bytes) : d.Shares (d.put location (.file content)) := by
  intro l
  by_cases here : l = location
  · rw [here, node?_put_self (below_of_ends ends)]
    exact Or.inr ⟨ends, trivial⟩
  · exact Or.inl (node?_put_of_ne here d _)

theorem Shares.eq (shares : d.Shares d') (there : d.node? location = some n) (on : ¬Ends (some n)) :
    d'.node? location = some n := by
  rcases shares location with same | ⟨ends, -⟩
  · exact same.trans there
  · rw [there] at ends
    exact absurd ends on

/-- Where segments lead on another disk. -/
def Leg.on (d : Disk) : Leg → Leg
  | .arrived p => .arrived ⟨p.location, d.node? p.location⟩
  | .turned location rest => .turned location rest

theorem Follows.on {leg : Leg} (follows : d.Follows directory segments leg) (shares : d.Shares d')
    (ends : ∀ p, leg = .arrived p → Ends p.node) : d'.Follows directory segments (leg.on d') := by
  induction follows with
  | nil directory => exact (ends _ rfl).elim
  | here _ ih => exact .here (ih ends)
  | up _ ih => exact .up (ih ends)
  | down names there _ ih => exact .down names (shares.eq there id) (ih ends)
  | @last directory s names last =>
    refine .last names ?_
    rcases shares (directory ++ [s]) with same | ⟨-, also⟩
    · rwa [same]
    · exact also
  | link more names there => exact .link more names (shares.eq there id)

/-- A path that ends at a place ends at the same location of the other disk. -/
theorem Reaches.on {links : Nat} (reaches : d.Reaches links directory segments place) (shares : d.Shares d')
    (ends : Ends place.node) : d'.Reaches links directory segments ⟨place.location, d'.node? place.location⟩ := by
  induction reaches with
  | arrived links leg =>
    refine .arrived links (leg.on shares fun p same => ?_)
    cases same
    exact ends
  | turned leg _ ih => exact .turned (leg.on shares nofun) (ih ends)

/-- Where a path ends stands what it leads to. -/
theorem Reaches.node_eq {links : Nat} (reaches : d.Reaches links directory segments place) (ends : Ends place.node) :
    d.node? place.location = place.node :=
  congrArg Place.node ((reaches.on (fun _ => Or.inl rfl) ends).eq reaches)

/-! ### Adding to a file -/

/-- A file is opened at the place to which its path leads. -/
theorem place_of_placeForFile (opened : d.placeForFile path true = .ok place) : d.place path true = .ok place := by
  rw [placeForFile] at opened
  cases valid : checkPath path with
  | error e =>
    rw [valid] at opened
    cases opened
  | ok _ =>
    rw [valid] at opened
    dsimp only [bind, Except.bind] at opened
    split at opened
    · split_ifs at opened
      · split at opened <;> cases opened
      · exact opened
    · exact opened

/-- Bytes are added to what a file held before; a file that was not there holds nothing else afterwards. -/
theorem read_append (appended : d.append path content = .ok d') :
    (∃ before, d.read path = .ok before ∧ d'.read path = .ok (before ++ content)) ∨
      d.read path = .error .notFound ∧ d'.read path = .ok content := by
  rw [append] at appended
  cases opened : d.placeForFile path true with
  | error e =>
    rw [opened] at appended
    cases appended
  | ok place =>
    rw [opened] at appended
    obtain ⟨location, node⟩ := place
    have led := place_of_placeForFile opened
    obtain ⟨valid, reaches⟩ := place_eq_ok_iff.mp led
    have afterwards : Ends node → ∀ after, (d.put location (.file after)).read path = .ok after := by
      intro ends after
      have stands : d.node? location = node := reaches.node_eq ends
      have open_end : Ends (d.node? location) := stands ▸ ends
      have later := reaches.on (shares_put open_end after) ends
      rw [node?_put_self (below_of_ends open_end)] at later
      exact read_eq_ok_iff.mpr ⟨location, existing_eq_ok_iff.mpr ⟨valid, later⟩⟩
    cases node with
    | none =>
      cases appended
      refine Or.inr ⟨?_, afterwards trivial content⟩
      rw [read, existing, led]
      rfl
    | some n =>
      cases n with
      | file before =>
        cases appended
        have read := read_eq_ok_iff.mpr ⟨location, existing_eq_ok_iff.mpr ⟨valid, reaches⟩⟩
        exact Or.inl ⟨before, read, afterwards trivial (before ++ content)⟩
      | directory => cases appended
      | link target => cases appended

/-! ### Making a file -/

/-- Unless there is a link at the end, it makes no difference whether such a link is followed. -/
theorem follow_of_unfollowed {leg : Leg} (leads : d.follow false directory segments = .ok leg)
    (other : ∀ location target, leg ≠ .arrived ⟨location, some (.link target)⟩) :
    d.follow true directory segments = .ok leg := by
  induction segments generalizing directory with
  | nil => exact leads
  | cons s more ih =>
    by_cases here : s = ['.']
    · rw [follow, if_pos here] at leads ⊢
      exact ih leads
    by_cases up : s = ['.', '.']
    · rw [follow, if_neg here, if_pos up] at leads ⊢
      exact ih leads
    by_cases long : maxName < (Text.utf8 s).length
    · rw [follow, if_neg here, if_neg up, if_pos long] at leads
      cases leads
    rw [follow, if_neg here, if_neg up, if_neg long] at leads ⊢
    dsimp only at leads ⊢
    cases stands : d.node? (directory ++ [s]) with
    | none =>
      rw [stands] at leads
      exact leads
    | some n =>
      rw [stands] at leads
      cases n with
      | file content => exact leads
      | directory => exact ih leads
      | link target =>
        cases more with
        | nil =>
          cases leads
          exact absurd rfl (other _ _)
        | cons next more => exact leads

theorem resolve_of_unfollowed {links : Nat} (leads : d.resolve false links directory segments = .ok ⟨location, none⟩) :
    d.resolve true links directory segments = .ok ⟨location, none⟩ := by
  fun_induction Disk.resolve d false links directory segments with
  | case1 links directory segments e eq => cases leads
  | case2 links directory segments p eq =>
    cases leads
    rw [resolve, follow_of_unfollowed eq]
    rintro _ _ ⟨⟩
  | case3 directory segments inner rest eq => cases leads
  | case4 directory segments inner rest eq links ih =>
    rw [resolve, follow_of_unfollowed eq]
    · exact ih leads
    · rintro _ _ ⟨⟩

theorem place_of_unfollowed (leads : d.place path false = .ok ⟨location, none⟩) :
    d.place path true = .ok ⟨location, none⟩ := by
  rw [Disk.place] at leads ⊢
  cases valid : checkPath path with
  | error e =>
    rw [valid] at leads
    cases leads
  | ok _ =>
    rw [valid] at leads
    exact resolve_of_unfollowed leads

theorem placeForFile_of_unfollowed (opened : d.placeForFile path false = .ok ⟨location, none⟩) :
    d.placeForFile path true = .ok ⟨location, none⟩ := by
  rw [placeForFile] at opened ⊢
  cases valid : checkPath path with
  | error e =>
    rw [valid] at opened
    cases opened
  | ok _ =>
    rw [valid] at opened
    dsimp only [bind, Except.bind] at opened ⊢
    split at opened
    · split_ifs at opened ⊢
      · split at opened <;> cases opened
      · exact place_of_unfollowed opened
    · exact place_of_unfollowed opened

/-- A file that can be made is not there, and adding to it makes it just so. -/
theorem append_of_create (created : d.create path content = .ok d') :
    d.read path = .error .notFound ∧ d.append path content = .ok d' := by
  rw [create] at created
  cases opened : d.placeForFile path false with
  | error e =>
    rw [opened] at created
    cases created
  | ok place =>
    rw [opened] at created
    obtain ⟨location, node⟩ := place
    cases node with
    | some n => cases created
    | none =>
      cases created
      have opened := placeForFile_of_unfollowed opened
      constructor
      · rw [read, existing, place_of_placeForFile opened]
        rfl
      · rw [append, opened]
        rfl

end TodoLedger.Disk
