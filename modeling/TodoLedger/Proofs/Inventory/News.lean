import TodoLedger.Inventory

/-! The news of hits: the fingerprints that an inventory does not have, each once and in the order in which hits
first bring them. -/

namespace TodoLedger

section Lists
variable {α : Type} [BEq α] [LawfulBEq α]

theorem nodup_eraseDups : ∀ l : List α, l.eraseDups.Nodup
  | [] => List.nodup_nil
  | a :: l => by
    have shorter : (l.filter fun b => !b == a).length < l.length + 1 :=
      Nat.lt_succ_of_le (List.length_filter_le _ _)
    rw [List.eraseDups_cons, List.nodup_cons]
    exact ⟨by simp [List.mem_eraseDups], nodup_eraseDups _⟩
termination_by l => l.length

theorem eraseDups_filter (p : α → Bool) : ∀ l : List α, (l.filter p).eraseDups = l.eraseDups.filter p
  | [] => rfl
  | a :: l => by
    have shorter : (l.filter fun b => !b == a).length < l.length + 1 :=
      Nat.lt_succ_of_le (List.length_filter_le _ _)
    have ih := eraseDups_filter p (l.filter fun b => !b == a)
    rw [List.eraseDups_cons]
    cases hp : p a with
    | true =>
      rw [List.filter_cons_of_pos hp, List.filter_cons_of_pos hp, List.eraseDups_cons, ← ih]
      simp only [List.filter_filter, Bool.and_comm]
    | false =>
      rw [List.filter_cons_of_neg (by simp [hp]), List.filter_cons_of_neg (by simp [hp]), ← ih, List.filter_filter]
      -- What satisfies `p` differs from `a` anyway.
      congr 1
      apply List.filter_congr
      intro b _
      by_cases hb : b = a
      · simp [hb, hp]
      · simp [hb]
termination_by l => l.length

end Lists

namespace Inventory

variable {inventory : Inventory} {filed : List Text} {h : Hit} {hits : List Hit} {f : Text}

/-- The fingerprints of hits that have no entry, each once, in the order of their first hits. -/
def news (inventory : Inventory) (hits : List Hit) : List Text :=
  ((hits.map Hit.fingerprint).filter fun f => (inventory.state? f).isNone).eraseDups

theorem mem_news : f ∈ inventory.news hits ↔ inventory.state? f = none ∧ ∃ h ∈ hits, h.fingerprint = f := by
  simp only [news, List.mem_eraseDups, List.mem_filter, List.mem_map, Option.isNone_iff_eq_none]
  exact and_comm

theorem nodup_news (inventory : Inventory) (hits : List Hit) : (inventory.news hits).Nodup := nodup_eraseDups _

theorem news_perm {hits' : List Hit} (perm : hits'.Perm hits) :
    (inventory.news hits').Perm (inventory.news hits) := by
  refine (List.perm_ext_iff_of_nodup (nodup_news _ _) (nodup_news _ _)).mpr fun f => ?_
  simp only [mem_news, perm.mem_iff]

/-- Titles that hits bring anew have one fingerprint only if they are the same. -/
def Separates (inventory : Inventory) (hits : List Hit) : Prop :=
  ∀ a ∈ hits, ∀ b ∈ hits, inventory.state? a.fingerprint = none → a.fingerprint = b.fingerprint → a.title = b.title

theorem Separates.perm {hits' : List Hit} (separates : inventory.Separates hits) (perm : hits'.Perm hits) :
    inventory.Separates hits' :=
  fun a ha b hb => separates a (perm.mem_iff.mp ha) b (perm.mem_iff.mp hb)

theorem news_cons_of_known (known : inventory.state? h.fingerprint ≠ none) :
    inventory.news (h :: hits) = inventory.news hits := by
  simp [news, known]

theorem news_cons_of_absent (absent : inventory.state? h.fingerprint = none) :
    inventory.news (h :: hits) =
      h.fingerprint :: (inventory.news hits).filter fun f => !f == h.fingerprint := by
  rw [news, List.map_cons, List.filter_cons_of_pos (by simp [absent]), List.eraseDups_cons, eraseDups_filter]
  rfl

/-- The news of hits that are not filed yet. -/
def unfiled (inventory : Inventory) (filed : List Text) (hits : List Hit) : List Text :=
  (inventory.news hits).filter fun f => !filed.contains f

@[simp] theorem unfiled_nil_left (inventory : Inventory) (hits : List Hit) :
    inventory.unfiled [] hits = inventory.news hits := by
  simp [unfiled]

@[simp] theorem unfiled_nil_right (inventory : Inventory) (filed : List Text) : inventory.unfiled filed [] = [] := rfl

theorem mem_unfiled : f ∈ inventory.unfiled filed hits ↔
    (inventory.state? f = none ∧ ∃ h ∈ hits, h.fingerprint = f) ∧ f ∉ filed := by
  simp [unfiled, mem_news]

theorem unfiled_cons_of_known (known : h.fingerprint ∈ filed ∨ inventory.state? h.fingerprint ≠ none) :
    inventory.unfiled filed (h :: hits) = inventory.unfiled filed hits := by
  by_cases absent : inventory.state? h.fingerprint = none
  · have hf : h.fingerprint ∈ filed := known.resolve_right (not_not_intro absent)
    rw [unfiled, news_cons_of_absent absent, List.filter_cons_of_neg (by simp [hf]), List.filter_filter]
    apply List.filter_congr
    intro f _
    by_cases heq : f = h.fingerprint
    · simp [heq, hf]
    · simp [heq]
  · rw [unfiled, news_cons_of_known absent, unfiled]

theorem unfiled_cons_of_new (fresh : h.fingerprint ∉ filed) (absent : inventory.state? h.fingerprint = none) :
    inventory.unfiled filed (h :: hits) =
      h.fingerprint :: inventory.unfiled (filed ++ [h.fingerprint]) hits := by
  rw [unfiled, news_cons_of_absent absent, List.filter_cons_of_pos (by simp [fresh]), List.filter_filter, unfiled]
  congr 1
  apply List.filter_congr
  intro f _
  by_cases heq : f = h.fingerprint <;> simp [heq]

/-- What the first hits leave unfiled comes before what the later ones add to it. -/
theorem unfiled_append (inventory : Inventory) (filed : List Text) (a b : List Hit) :
    inventory.unfiled filed (a ++ b) =
      inventory.unfiled filed a ++ inventory.unfiled (filed ++ inventory.unfiled filed a) b := by
  induction a generalizing filed with
  | nil => simp
  | cons h a ih =>
    by_cases known : h.fingerprint ∈ filed ∨ inventory.state? h.fingerprint ≠ none
    · rw [List.cons_append, unfiled_cons_of_known known, unfiled_cons_of_known known, ih]
    · obtain ⟨fresh, absent⟩ := not_or.mp known
      have absent := Decidable.not_not.mp absent
      rw [List.cons_append, unfiled_cons_of_new fresh absent, unfiled_cons_of_new fresh absent, ih,
        List.append_assoc, List.singleton_append, List.cons_append]

end Inventory

/-! ### First hits -/

/-- The first hit with a fingerprint. -/
def firstHit? (f : Text) (hits : List Hit) : Option Hit := hits.find? fun h => h.fingerprint = f

section First
variable {h : Hit} {hits : List Hit} {f : Text}

theorem firstHit?_cons_self : firstHit? h.fingerprint (h :: hits) = some h := by
  simp [firstHit?]

theorem firstHit?_cons_of_ne (hne : h.fingerprint ≠ f) : firstHit? f (h :: hits) = firstHit? f hits := by
  simp [firstHit?, hne]

theorem exists_firstHit? (hh : h ∈ hits) : ∃ x, firstHit? h.fingerprint hits = some x :=
  Option.isSome_iff_exists.mp (List.find?_isSome.mpr ⟨h, hh, by simp⟩)

theorem firstHit?_append_of_mem (hh : h ∈ hits) (hf : h.fingerprint = f) (later : List Hit) :
    firstHit? f (hits ++ later) = firstHit? f hits := by
  subst hf
  obtain ⟨x, hx⟩ := exists_firstHit? hh
  unfold firstHit? at hx ⊢
  rw [List.find?_append, hx, Option.some_or]

theorem fingerprint_of_firstHit? (hh : firstHit? f hits = some h) : h ∈ hits ∧ h.fingerprint = f :=
  ⟨List.mem_of_find?_eq_some hh, by simpa using List.find?_some hh⟩

end First

/-- A hit of a directive that gives its title. -/
def Hit.titled (title : Text) : Hit where
  file := ['f']
  line := 1
  keywords := ⟨true, false⟩
  context := [[]]
  trigger := 0
  title? := some title
  body? := none
  labels? := none
  keywords_ne_empty := rfl
  line_pos := Nat.one_pos
  trigger_lt := Nat.one_pos

end TodoLedger
