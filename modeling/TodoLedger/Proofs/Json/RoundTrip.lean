import TodoLedger.Proofs.Json.Reading
import TodoLedger.Proofs.Text.Number

/-! Values that are written over several lines are read back as they were. A number has no end of its own, so a value
is followed up to what comes after it. -/

namespace TodoLedger.Json

variable {j : Json} {fuel : Nat}

mutual

/-- A value without broken parts whose numbers are written as numbers. -/
def isPlain : Json → Bool
  | broken => false
  | number written => isNumber written && written.all isNumeric
  | array items => arePlain items
  | object members => holdPlain members
  | _ => true

def arePlain : List Json → Bool
  | [] => true
  | item :: more => isPlain item && arePlain more

def holdPlain : List (Text × Json) → Bool
  | [] => true
  | (_, value) :: more => isPlain value && holdPlain more

end

theorem arePlain_iff {items : List Json} : arePlain items = true ↔ ∀ item ∈ items, isPlain item = true := by
  induction items with
  | nil => simp [arePlain]
  | cons item items ih => simp [arePlain, ih]

theorem holdPlain_iff {members : List (Text × Json)} :
    holdPlain members = true ↔ ∀ m ∈ members, isPlain m.2 = true := by
  induction members with
  | nil => simp [holdPlain]
  | cons m members ih => simp [holdPlain, ih]

theorem isPlain_ofTexts (ts : List Text) : isPlain (ofTexts ts) = true := by
  rw [ofTexts, isPlain, arePlain_iff]
  simp [isPlain]

theorem isPlain_ofNat (n : Nat) : isPlain (ofNat n) = true := by
  have digits : ∀ c ∈ Text.ofNat n, c.isDigit = true := fun _ => Text.isDigit_of_mem_ofNat
  rw [ofNat, isPlain, Bool.and_eq_true]
  constructor
  · refine isNumber_of_digits Nat.toDigits_ne_nil digits ?_
    by_cases zero : (Text.ofNat n).head? = some '0'
    · rw [Text.eq_zero_of_head?_ofNat zero]
      exact Or.inl rfl
    · exact Or.inr zero
  · refine List.all_eq_true.mpr fun c mem => ?_
    rw [isNumeric, digits c mem, Bool.true_or]

/-! ### Written values -/

theorem render_items (item : Json) (more : List Json) (depth : Nat) (r : Text) :
    render depth (array (item :: more)) ++ r = '[' :: (newLine (depth + 1) ++ (render (depth + 1) item ++
      (renderItems (depth + 1) more ++ (newLine depth ++ ']' :: r)))) := by
  have whole : render depth (array (item :: more)) = ['['] ++ newLine (depth + 1) ++ render (depth + 1) item ++
      renderItems (depth + 1) more ++ newLine depth ++ [']'] := rfl
  simp only [whole, List.append_assoc, List.cons_append, List.nil_append]

theorem render_members (name : Text) (value : Json) (more : List (Text × Json)) (depth : Nat) (r : Text) :
    render depth (object ((name, value) :: more)) ++ r = '\x7b' :: (newLine (depth + 1) ++ ('"' ::
      (name.flatMap escapedChar ++ '"' :: ':' :: ' ' :: (render (depth + 1) value ++
        (renderMembers (depth + 1) more ++ (newLine depth ++ '\x7d' :: r)))))) := by
  have whole : render depth (object ((name, value) :: more)) = ['\x7b'] ++ newLine (depth + 1) ++
      renderString name ++ [':', ' '] ++ render (depth + 1) value ++ renderMembers (depth + 1) more ++
      newLine depth ++ ['\x7d'] := rfl
  simp only [whole, renderString, List.append_assoc, List.cons_append, List.nil_append]

theorem renderItems_cons (item : Json) (more : List Json) (depth : Nat) (r : Text) :
    renderItems depth (item :: more) ++ r =
      ',' :: (newLine depth ++ (render depth item ++ (renderItems depth more ++ r))) := by
  have whole : renderItems depth (item :: more) =
      [','] ++ newLine depth ++ render depth item ++ renderItems depth more := rfl
  simp only [whole, List.append_assoc, List.cons_append, List.nil_append]

theorem renderMembers_cons (name : Text) (value : Json) (more : List (Text × Json)) (depth : Nat) (r : Text) :
    renderMembers depth ((name, value) :: more) ++ r = ',' :: (newLine depth ++ ('"' ::
      (name.flatMap escapedChar ++ '"' :: ':' :: ' ' :: (render depth value ++ (renderMembers depth more ++ r))))) := by
  have whole : renderMembers depth ((name, value) :: more) = [','] ++ newLine depth ++ renderString name ++
      [':', ' '] ++ render depth value ++ renderMembers depth more := rfl
  simp only [whole, renderString, List.append_assoc, List.cons_append, List.nil_append]

/-- A value without broken parts whose numbers are written as numbers starts with no space and no end. -/
theorem exists_render_cons (hj : isPlain j = true) (depth : Nat) (r : Text) :
    ∃ c t, render depth j ++ r = c :: t ∧ isSpace c = false ∧ c ≠ ']' := by
  cases j with
  | null => exact ⟨'n', ['u', 'l', 'l'] ++ r, rfl, rfl, by decide⟩
  | bool x =>
    cases x with
    | true => exact ⟨'t', ['r', 'u', 'e'] ++ r, rfl, rfl, by decide⟩
    | false => exact ⟨'f', ['a', 'l', 's', 'e'] ++ r, rfl, rfl, by decide⟩
  | number written =>
    rw [isPlain, Bool.and_eq_true] at hj
    cases written with
    | nil => cases hj.1
    | cons c w =>
      obtain ⟨hc, -⟩ : isNumeric c = true ∧ w.all isNumeric = true := by simpa using hj.2
      obtain ⟨space, other⟩ := ne_of_isNumeric hc
      refine ⟨c, w ++ r, rfl, space, ?_⟩
      rintro rfl
      simp at other
  | string t => exact ⟨'"', _, rfl, rfl, by decide⟩
  | broken => cases hj
  | array items =>
    cases items with
    | nil => exact ⟨'[', ']' :: r, rfl, rfl, by decide⟩
    | cons item more => exact ⟨'[', _, rfl, rfl, by decide⟩
  | object members =>
    rcases members with _ | ⟨⟨name, value⟩, more⟩
    · exact ⟨'\x7b', '\x7d' :: r, rfl, rfl, by decide⟩
    · exact ⟨'\x7b', _, rfl, rfl, by decide⟩

theorem skipSpaces_render (hj : isPlain j = true) (depth : Nat) (r : Text) :
    skipSpaces (render depth j ++ r) = render depth j ++ r := by
  obtain ⟨c, t, h, space, -⟩ := exists_render_cons hj depth r
  rw [h, skipSpaces_cons space]

theorem ends_newLine (depth : Nat) (r : Text) : Ends (newLine depth ++ r) := by
  rintro c ⟨⟩
  rfl

theorem ends_renderItems (more : List Json) (depth outer : Nat) (r : Text) :
    Ends (renderItems depth more ++ (newLine outer ++ r)) := by
  cases more with
  | nil => exact ends_newLine outer r
  | cons item more =>
    rw [renderItems_cons]
    rintro c ⟨⟩
    rfl

theorem ends_renderMembers (more : List (Text × Json)) (depth outer : Nat) (r : Text) :
    Ends (renderMembers depth more ++ (newLine outer ++ r)) := by
  cases more with
  | nil => exact ends_newLine outer r
  | cons member more =>
    rw [renderMembers_cons]
    rintro c ⟨⟩
    rfl

/-! ### Reading them -/

theorem ofUnits_units (t : Text) : ofUnits (t.flatMap Text.units) = string t := by
  rw [ofUnits, Text.ofUnits?_flatMap]
  rfl

/-- Members with their names in units. -/
def named (members : List (Text × Json)) : List (List Nat × Json) :=
  members.map fun m => (m.1.flatMap Text.units, m.2)

theorem mapM_named {read : List Nat × Json → Option (Text × Json)}
    (back : ∀ name value, read (name.flatMap Text.units, value) = some (name, value)) (members : List (Text × Json)) :
    (named members).mapM read = some members := by
  induction members with
  | nil => rfl
  | cons member members ih =>
    rw [named] at ih
    rw [named, List.map_cons, List.mapM_cons, back, ih]
    rfl

theorem ofMembers_named (members : List (Text × Json)) : ofMembers (named members) = object members := by
  rw [ofMembers, mapM_named]
  · rfl
  · intro name value
    simp only [Text.ofUnits?_flatMap, Option.bind_eq_bind, Option.bind_some, Option.pure_def]

/-- This much fuel reads every value from its text, whatever follows unless a number goes on. -/
def ReadsValues (fuel : Nat) : Prop :=
  ∀ j depth r, isPlain j = true → Ends r → 2 * (render depth j ++ r).length + 2 ≤ fuel →
    readValue fuel (render depth j ++ r) = some (j, r)

/-- This much fuel reads the items of every array. -/
def ReadsItems (fuel : Nat) : Prop :=
  ∀ item more depth outer r, isPlain item = true → arePlain more = true →
    2 * (render depth item ++ (renderItems depth more ++ (newLine outer ++ ']' :: r))).length + 3 ≤ fuel →
    readItems fuel (render depth item ++ (renderItems depth more ++ (newLine outer ++ ']' :: r))) =
      some (item :: more, r)

/-- This much fuel reads the members of every object. -/
def ReadsMembers (fuel : Nat) : Prop :=
  ∀ name value more depth outer r, isPlain value = true → holdPlain more = true →
    2 * (render depth value ++ (renderMembers depth more ++ (newLine outer ++ '\x7d' :: r))).length + 3 ≤ fuel →
    readMembers fuel ('"' :: (name.flatMap escapedChar ++ '"' :: ':' :: ' ' :: (render depth value ++
      (renderMembers depth more ++ (newLine outer ++ '\x7d' :: r))))) =
      some (named ((name, value) :: more), r)

theorem ReadsItems.succ (values : ReadsValues fuel) (items : ReadsItems fuel) : ReadsItems (fuel + 1) := by
  intro item more depth outer r hitem hmore enough
  have first := values item depth (renderItems depth more ++ (newLine outer ++ ']' :: r)) hitem
    (ends_renderItems more depth outer _) (by omega)
  cases more with
  | nil =>
    refine readItems_last first ?_
    exact (skipSpaces_newLine outer _).trans (skipSpaces_cons rfl r)
  | cons next more =>
    obtain ⟨hnext, hmore⟩ := by simpa only [arePlain, Bool.and_eq_true] using hmore
    rw [renderItems_cons] at first enough ⊢
    have rest := items next more depth outer r hnext hmore (by
      simp only [List.length_append, List.length_cons] at enough ⊢
      omega)
    rw [readItems_more first (skipSpaces_cons rfl _), readItems_congr (skipSpaces_newLine depth _), rest]
    rfl

theorem ReadsMembers.succ (values : ReadsValues fuel) (members : ReadsMembers fuel) : ReadsMembers (fuel + 1) := by
  intro name value more depth outer r hvalue hmore enough
  have first := values value depth (renderMembers depth more ++ (newLine outer ++ '\x7d' :: r)) hvalue
    (ends_renderMembers more depth outer _) (by omega)
  have spaced : ∀ t, readValue fuel (' ' :: t) = readValue fuel t := fun t =>
    readValue_congr (skipSpaces_cons_of_space rfl t)
  rw [← spaced] at first
  cases more with
  | nil =>
    refine readMembers_last (skipSpaces_cons rfl _) (readUnits_string name _) (skipSpaces_cons rfl _) first ?_
    exact (skipSpaces_newLine outer _).trans (skipSpaces_cons rfl r)
  | cons next more =>
    obtain ⟨next, other⟩ := next
    obtain ⟨hother, hmore⟩ := by simpa only [holdPlain, Bool.and_eq_true] using hmore
    rw [renderMembers_cons] at first enough ⊢
    have rest := members next other more depth outer r hother hmore (by
      simp only [List.length_append, List.length_cons] at enough ⊢
      omega)
    rw [readMembers_more (skipSpaces_cons rfl _) (readUnits_string name _) (skipSpaces_cons rfl _) first
      (skipSpaces_cons rfl _), readMembers_congr (skipSpaces_newLine depth _), rest]
    rfl

theorem ReadsValues.succ (items : ReadsItems fuel) (members : ReadsMembers fuel) : ReadsValues (fuel + 1) := by
  intro j depth r hj hr enough
  have start := skipSpaces_render hj depth r
  cases j with
  | null => exact (readValue_atom start (by decide)).trans rfl
  | bool x => cases x <;> exact (readValue_atom start (by decide)).trans rfl
  | number written =>
    obtain ⟨hw, numeric⟩ := by simpa only [isPlain, Bool.and_eq_true] using hj
    cases written with
    | nil => cases hw
    | cons c w =>
      obtain ⟨hc, -⟩ : isNumeric c = true ∧ w.all isNumeric = true := by simpa using numeric
      refine (readValue_atom start ?_).trans (readAtom_number hw numeric hr)
      have := (ne_of_isNumeric hc).2
      simp_all
  | string t =>
    have whole : render depth (string t) ++ r = '"' :: (t.flatMap escapedChar ++ '"' :: r) := by
      have : render depth (string t) = renderString t := rfl
      simp only [this, renderString, List.append_assoc, List.cons_append, List.nil_append]
    rw [whole, readValue_string (skipSpaces_cons rfl _), readUnits_string]
    exact congrArg (fun x => some (x, r)) (ofUnits_units t)
  | broken => cases hj
  | array xs =>
    cases xs with
    | nil => exact readValue_no_items start (skipSpaces_cons rfl r)
    | cons item more =>
      obtain ⟨hitem, hmore⟩ := by simpa only [isPlain, arePlain, Bool.and_eq_true] using hj
      rw [render_items] at enough ⊢
      have rest := items item more (depth + 1) depth r hitem hmore (by
        simp only [List.length_append, List.length_cons, newLine] at enough ⊢
        omega)
      obtain ⟨c, u, h, space, hc⟩ := exists_render_cons hitem (depth + 1)
        (renderItems (depth + 1) more ++ (newLine depth ++ ']' :: r))
      rw [h] at rest ⊢
      rw [readValue_items (skipSpaces_cons rfl _) ((skipSpaces_newLine _ _).trans (skipSpaces_cons space u)) hc, rest]
      rfl
  | object xs =>
    rcases xs with _ | ⟨⟨name, value⟩, more⟩
    · exact readValue_no_members start (skipSpaces_cons rfl r)
    · obtain ⟨hvalue, hmore⟩ := by simpa only [isPlain, holdPlain, Bool.and_eq_true] using hj
      rw [render_members] at enough ⊢
      have rest := members name value more (depth + 1) depth r hvalue hmore (by
        simp only [List.length_append, List.length_cons, newLine] at enough ⊢
        omega)
      rw [readValue_members (skipSpaces_cons rfl _) ((skipSpaces_newLine _ _).trans (skipSpaces_cons rfl _))
        (by decide), rest]
      exact congrArg (fun x => some (x, r)) (ofMembers_named _)

/-- The three readers spend their fuel on each other, so they are followed together. -/
theorem reads (fuel : Nat) : ReadsValues fuel ∧ ReadsItems fuel ∧ ReadsMembers fuel := by
  induction fuel with
  | zero =>
    refine ⟨?_, ?_, ?_⟩
    · intro _ _ _ _ _ enough
      omega
    · intro _ _ _ _ _ _ _ enough
      omega
    · intro _ _ _ _ _ _ _ _ enough
      omega
  | succ fuel ih =>
    obtain ⟨values, items, members⟩ := ih
    exact ⟨.succ items members, .succ values items, .succ values members⟩

/-- A plain value is read back from its text over several lines, with spaces behind it or without. -/
theorem read?_pretty_append {r : Text} (hj : isPlain j = true) (blank : skipSpaces r = []) :
    read? (pretty j ++ r) = some j := by
  have ends : Ends r := by
    intro c first
    obtain ⟨t, rfl⟩ := List.head?_eq_some_iff.mp first
    by_contra numeric
    rw [Bool.not_eq_false] at numeric
    rw [skipSpaces_cons (ne_of_isNumeric numeric).1] at blank
    cases blank
  have whole : readValue (2 * (pretty j ++ r).length + 2) (pretty j ++ r) = some (j, r) :=
    (reads _).1 j 0 r hj ends (Nat.le_refl _)
  rw [read?, whole]
  simp [blank]

theorem read?_pretty (hj : isPlain j = true) : read? (pretty j) = some j := by
  simpa using read?_pretty_append (r := []) hj rfl

end TodoLedger.Json
