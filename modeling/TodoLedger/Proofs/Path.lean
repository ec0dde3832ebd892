import TodoLedger.Path

/-! Paths made of names. A path that leads from a base through names spells the names with slashes between them, so
different names make different paths. -/

namespace TodoLedger.Path

/-- A name that an entry of a directory can have. -/
structure IsName (name : Text) : Prop where
  some : name ≠ []
  whole : '/' ∉ name
  notHere : name ≠ ['.']
  notUp : name ≠ ['.', '.']

instance (name : Text) : Decidable (IsName name) :=
  decidable_of_iff (name ≠ [] ∧ '/' ∉ name ∧ name ≠ ['.'] ∧ name ≠ ['.', '.'])
    ⟨fun ⟨nonempty, whole, here, up⟩ => ⟨nonempty, whole, here, up⟩, fun h => ⟨h.some, h.whole, h.notHere, h.notUp⟩⟩

/-- The path from a base through names. -/
def descend (base : Text) (names : List Text) : Text := names.foldl join base

/-- A base as it stands before a name. -/
def stem (base : Text) : Text := if base.isEmpty || base.getLast? == some '/' then base else base ++ ['/']

variable {base name : Text} {names front back : List Text}

theorem descend_cons (base name : Text) (names : List Text) :
    descend base (name :: names) = descend (join base name) names := rfl

theorem descend_append (base : Text) (front back : List Text) :
    descend base (front ++ back) = descend (descend base front) back := List.foldl_append

/-- What begins with a name is relative. -/
theorem IsName.not_absolute (h : IsName name) (rest : Text) : isAbsolute (name ++ rest) = false := by
  cases name with
  | nil => exact absurd rfl h.some
  | cons c name =>
    have : c ≠ '/' := fun hc => h.whole (hc ▸ List.mem_cons_self)
    rw [List.cons_append, isAbsolute]
    intro _ slash
    exact this (List.cons.inj slash).1

theorem join_eq (relative : isAbsolute name = false) (base : Text) : join base name = stem base ++ name := by
  rw [join, relative, stem]
  by_cases empty : base = []
  · simp [empty]
  · by_cases ends : base.getLast? = some '/' <;> simp [empty, ends]

theorem join_name (h : IsName name) (base : Text) : join base name = stem base ++ name :=
  join_eq (by simpa using h.not_absolute []) base

theorem stem_join (h : IsName name) (base : Text) : stem (join base name) = join base name ++ ['/'] := by
  have last : name.getLast? ≠ some '/' := fun last => h.whole (List.mem_of_getLast? last)
  rw [join_name h, stem]
  simp [h.some, last]

theorem stem_descend (h : ∀ name ∈ names, IsName name) (some : names ≠ []) (base : Text) :
    stem (descend base names) = descend base names ++ ['/'] := by
  induction names generalizing base with
  | nil => exact absurd rfl some
  | cons name names ih =>
    obtain ⟨first, rest⟩ := List.forall_mem_cons.mp h
    by_cases empty : names = []
    · rw [empty]
      exact stem_join first base
    · exact ih rest empty (join base name)

/-- What follows a first name is nothing or a slash and more. -/
theorem exists_join_eq (name : Text) (names : List Text) :
    ∃ rest, Text.join ['/'] (name :: names) = name ++ rest ∧ rest.takeWhile (· != '/') = [] := by
  cases names with
  | nil => exact ⟨[], by simp [Text.join], rfl⟩
  | cons next names => exact ⟨_, by rw [Text.join, List.intercalate_cons_cons, List.append_assoc], rfl⟩

/-- A path spells its names with slashes between them. -/
theorem descend_eq (h : ∀ name ∈ names, IsName name) (some : names ≠ []) (base : Text) :
    descend base names = stem base ++ Text.join ['/'] names := by
  induction names generalizing base with
  | nil => exact absurd rfl some
  | cons name names ih =>
    obtain ⟨first, rest⟩ := List.forall_mem_cons.mp h
    rw [descend_cons, Text.join]
    by_cases empty : names = []
    · rw [empty, List.intercalate_singleton]
      exact join_name first base
    · rw [ih rest empty, stem_join first, join_name first, Text.join, List.intercalate_cons_of_ne_nil empty]
      simp only [List.append_assoc]

theorem length_le_stem (base : Text) : base.length ≤ (stem base).length := by
  rw [stem]
  split
  · exact Nat.le_refl _
  · simp

theorem length_lt_descend (h : ∀ name ∈ names, IsName name) (some : names ≠ []) (base : Text) :
    base.length < (descend base names).length := by
  cases names with
  | nil => exact absurd rfl some
  | cons name names =>
    obtain ⟨rest, eq, -⟩ := exists_join_eq name names
    have first := List.length_pos_iff.mpr (h name List.mem_cons_self).some
    have stem := length_le_stem base
    rw [descend_eq h some, eq, List.length_append, List.length_append]
    omega

theorem descend_inj (hf : ∀ name ∈ front, IsName name) (hb : ∀ name ∈ back, IsName name)
    (same : descend base front = descend base back) : front = back := by
  by_cases f : front = []
  · by_cases b : back = []
    · rw [f, b]
    · have longer := length_lt_descend hb b base
      rw [← same, f] at longer
      exact absurd longer (Nat.lt_irrefl _)
  · by_cases b : back = []
    · have longer := length_lt_descend hf f base
      rw [same, b] at longer
      exact absurd longer (Nat.lt_irrefl _)
    · rw [descend_eq hf f, descend_eq hb b, List.append_cancel_left_eq] at same
      rw [← List.splitOn_intercalate '/' (fun name mem => (hf name mem).whole) f, ← Text.join, same, Text.join,
        List.splitOn_intercalate '/' (fun name mem => (hb name mem).whole) b]

/-- Below a path there is a slash and more. -/
theorem descend_below (hf : ∀ name ∈ front, IsName name) (hb : ∀ name ∈ back, IsName name) (f : front ≠ [])
    (b : back ≠ []) (base : Text) : ∃ rest, descend base (front ++ back) = descend base front ++ '/' :: rest := by
  refine ⟨Text.join ['/'] back, ?_⟩
  rw [descend_append, descend_eq hb b, stem_descend hf f, List.append_assoc]
  rfl

/-- A path that starts nowhere is relative, and leads on from any base. -/
theorem join_descend (h : ∀ name ∈ names, IsName name) (some : names ≠ []) (base : Text) :
    join base (descend [] names) = descend base names := by
  have spelled := descend_eq h some []
  have relative : isAbsolute (descend [] names) = false := by
    cases names with
    | nil => exact absurd rfl some
    | cons name names =>
      obtain ⟨rest, eq, -⟩ := exists_join_eq name names
      rw [spelled, eq]
      exact (h name List.mem_cons_self).not_absolute rest
  rw [join_eq relative, descend_eq h some base, spelled]
  rfl

/-- The first name of a path that starts nowhere. -/
theorem takeWhile_descend (h : ∀ name ∈ names, IsName name) (some : names ≠ []) :
    (descend [] names).takeWhile (· != '/') = names.headD [] := by
  rw [descend_eq h some]
  cases names with
  | nil => exact absurd rfl some
  | cons name names =>
    have first : ∀ c ∈ name, (c != '/') = true := fun c hc =>
      bne_iff_ne.mpr fun slash => (h name List.mem_cons_self).whole (slash ▸ hc)
    obtain ⟨rest, eq, stop⟩ := exists_join_eq name names
    change (Text.join ['/'] (name :: names)).takeWhile _ = name
    rw [eq, List.takeWhile_append_of_pos first, stop, List.append_nil]

end TodoLedger.Path
