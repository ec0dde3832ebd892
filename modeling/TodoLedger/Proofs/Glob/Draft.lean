import TodoLedger.Proofs.Glob.Matching

/-! Drafts of patterns, and what a character makes of them. Whether the rest of a pattern can be read depends on the kind of
reading and the number of open groups alone. Where a pattern may end, an ordinary character is read as itself, so it takes no
draft to a place where a pattern may end but from such a place. -/

namespace TodoLedger.Glob

theorem ok_bind {α β : Type} (a : α) (f : α → Except Fault β) : (Except.ok a >>= f) = f a := rfl

/-- What a reading waits for, whatever stood before its stars. -/
def Reading.kind : Reading → Reading
  | star _ => star none
  | stars _ => stars none
  | r => r

namespace Draft

variable {d d' : Draft} {c : Char} {t : Token} {ts : List Token} {f : Fault}

/-- What decides whether the rest of a pattern can be read. -/
def status (d : Draft) : Reading × Nat := (d.reading.kind, d.groups.length)

/-! ### What the steps leave alone -/

theorem pushDoubleStar_reading : (d.pushDoubleStar t).reading = d.reading := by
  rw [pushDoubleStar]
  split <;> rfl

theorem pushDoubleStar_groups : (d.pushDoubleStar t).groups = d.groups := by
  rw [pushDoubleStar]
  split <;> rfl

/-- What two stars become, and whether they take the next character with them. -/
theorem settleStars_cases (d : Draft) (before next : Option Char) :
    let p := { d with reading := .plain }
    (d.parts = [] ∧ (next = none ∨ next = some '/') ∧ d.settleStars before next = (p.push .leadingDirs, true)) ∨
      d.settleStars before next = (p.pushTwoStars, false) ∨
      (d.parts ≠ [] ∧ next = none ∧ d.settleStars before next = (p.pushDoubleStar .everythingBelow, true)) ∨
      (d.parts ≠ [] ∧ d.settleStars before next = (p.pushDoubleStar .everythingBelow, false)) ∨
      (d.parts ≠ [] ∧ next = some '/' ∧ d.settleStars before next = (p.pushDoubleStar .innerDirs, true)) := by
  intro p
  by_cases empty : d.parts = []
  · by_cases ends : next = none ∨ next = some '/'
    · exact Or.inl ⟨empty, ends, by simp [settleStars, empty, ends, p]⟩
    · exact Or.inr (Or.inl (by simp [settleStars, empty, ends, p]))
  · rw [settleStars]
    simp only [List.isEmpty_iff, empty, if_false]
    split_ifs with apart last inside below
    · exact Or.inr (Or.inl rfl)
    · exact Or.inr (Or.inr (Or.inl ⟨empty, by simpa using last, rfl⟩))
    · exact Or.inr (Or.inr (Or.inr (Or.inl ⟨empty, rfl⟩)))
    · exact Or.inr (Or.inr (Or.inr (Or.inr ⟨empty, by simpa using below, rfl⟩)))
    · exact Or.inr (Or.inl rfl)

/-- Two stars end their reading, and take nothing with them but a slash. -/
theorem settleStars_frame (d : Draft) (before next : Option Char) :
    (d.settleStars before next).1.reading = .plain ∧ (d.settleStars before next).1.groups = d.groups ∧
      ((d.settleStars before next).2 = true → next = none ∨ next = some '/') := by
  obtain ⟨-, ends, eq⟩ | eq | ⟨-, ends, eq⟩ | ⟨-, eq⟩ | ⟨-, ends, eq⟩ := d.settleStars_cases before next <;> rw [eq]
  · exact ⟨rfl, rfl, fun _ => ends⟩
  · exact ⟨rfl, rfl, nofun⟩
  · exact ⟨pushDoubleStar_reading, pushDoubleStar_groups, fun _ => Or.inl ends⟩
  · exact ⟨pushDoubleStar_reading, pushDoubleStar_groups, nofun⟩
  · exact ⟨pushDoubleStar_reading, pushDoubleStar_groups, fun _ => Or.inr ends⟩

/-- Stars that take the next character with them. -/
theorem feed_of_taken {before : Option Char} (stars : d.reading = .stars before)
    (taken : d.settleStars before (some c) = (d', true)) : d.feed c = .ok { d' with last := some c } := by
  rw [feed, stars]
  dsimp only
  rw [taken]

/-- Stars that leave the next character where it is. -/
theorem feed_of_kept {before : Option Char} (stars : d.reading = .stars before)
    (kept : d.settleStars before (some c) = (d', false)) : d.feed c = d'.feedPlain c := by
  rw [feed, stars]
  dsimp only
  rw [kept]

/-! ### The status -/

theorem closeGroup_congr (same : d.status = d'.status) : d.closeGroup.map status = d'.closeGroup.map status := by
  obtain ⟨r, last, parts, groups⟩ := d
  obtain ⟨r', last', parts', groups'⟩ := d'
  cases groups <;> cases groups' <;> simp_all [status, closeGroup, Except.map]

theorem nextBranch_status (d : Draft) : d.nextBranch.status = d.status := by
  obtain ⟨r, last, parts, groups⟩ := d
  cases groups <;> rfl

theorem nextBranch_congr (same : d.status = d'.status) : d.nextBranch.status = d'.nextBranch.status := by
  rw [nextBranch_status, nextBranch_status, same]

theorem ok_congr (same : d.status = d'.status) :
    (Except.ok d : Except Fault Draft).map status = (Except.ok d' : Except Fault Draft).map status :=
  congrArg Except.ok same

theorem feedPlain_congr (same : d.groups.length = d'.groups.length) (c : Char) :
    (d.feedPlain c).map status = (d'.feedPlain c).map status := by
  rw [feedPlain, feedPlain]
  dsimp only
  split_ifs
  · exact ok_congr (Prod.ext rfl same)
  · exact ok_congr (Prod.ext rfl same)
  · exact ok_congr (Prod.ext rfl same)
  · exact ok_congr (Prod.ext rfl (congrArg (· + 1) same))
  · exact closeGroup_congr (Prod.ext rfl same)
  · exact ok_congr (nextBranch_congr (Prod.ext rfl same))
  · exact ok_congr (Prod.ext rfl same)
  · exact ok_congr (Prod.ext rfl same)

/-- Which characters mean something outside classes. -/
def special : List Char := ['?', '*', '[', '\x7b', '\x7d', ',', '\\']

theorem feedPlain_of_ordinary (ordinary : c ∉ special) :
    d.feedPlain c = .ok ({ d with reading := .plain, last := some c }.push (.literal c)) := by
  simp only [special, List.mem_cons, List.not_mem_nil, or_false, not_or] at ordinary
  obtain ⟨h₁, h₂, h₃, h₄, h₅, h₆, h₇⟩ := ordinary
  simp only [feedPlain, h₁, h₂, h₃, h₄, h₅, h₆, h₇, if_false]

/-- After two stars a character leads to the same status as without them. -/
theorem feed_stars {before : Option Char} (stars : d.reading = .stars before) (c : Char) :
    (d.feed c).map status = (d.feedPlain c).map status := by
  obtain ⟨plain, groups, taken⟩ := d.settleStars_frame before (some c)
  cases settled : d.settleStars before (some c) with
  | mk e took =>
    rw [settled] at plain groups taken
    cases took with
    | false =>
      rw [feed_of_kept stars settled]
      exact feedPlain_congr (congrArg List.length groups) c
    | true =>
      obtain rfl : c = '/' := by simpa using taken rfl
      rw [feed_of_taken stars settled, feedPlain_of_ordinary (by decide)]
      exact ok_congr (Prod.ext (congrArg Reading.kind plain) (congrArg List.length groups))

theorem feedClass_congr (same : d.groups.length = d'.groups.length) (negated : Bool) (ranges : List (Char × Char))
    (first openRange : Bool) (c : Char) :
    (d.feedClass negated ranges first openRange c).map status =
      (d'.feedClass negated ranges first openRange c).map status := by
  simp only [feedClass]
  split_ifs with closed _ dash opened
  · exact ok_congr (Prod.ext rfl same)
  · exact ok_congr (Prod.ext rfl same)
  · exact ok_congr (Prod.ext rfl same)
  · cases ranges with
    | nil => exact ok_congr (Prod.ext rfl same)
    | cons range more =>
      dsimp only
      split_ifs
      · rfl
      · exact ok_congr (Prod.ext rfl same)
  · exact ok_congr (Prod.ext rfl same)

/-- From drafts with one status a character leads to one status. -/
theorem feed_congr (same : d.status = d'.status) (c : Char) : (d.feed c).map status = (d'.feed c).map status := by
  have kind : d.reading.kind = d'.reading.kind := congrArg Prod.fst same
  have depth : d.groups.length = d'.groups.length := congrArg Prod.snd same
  cases hr : d.reading <;> cases hr' : d'.reading <;>
    simp only [hr, hr', Reading.kind, reduceCtorEq, Reading.inClass.injEq] at kind
  case plain.plain =>
    rw [feed, feed, hr, hr']
    exact feedPlain_congr depth c
  case escaped.escaped =>
    rw [feed, feed, hr, hr']
    exact ok_congr (Prod.ext rfl depth)
  case star.star before before' =>
    rw [feed, feed, hr, hr']
    dsimp only
    split_ifs
    · exact ok_congr (Prod.ext rfl depth)
    · have depth : (d.push .anyRun).groups.length = (d'.push .anyRun).groups.length := depth
      exact feedPlain_congr depth c
  case stars.stars before before' =>
    rw [feed_stars hr, feed_stars hr']
    exact feedPlain_congr depth c
  case classStart.classStart =>
    rw [feed, feed, hr, hr']
    dsimp only
    split_ifs
    · exact ok_congr (Prod.ext rfl depth)
    · exact feedClass_congr depth ..
  case inClass.inClass =>
    obtain ⟨rfl, rfl, rfl, rfl⟩ := kind
    rw [feed, feed, hr, hr']
    exact feedClass_congr depth ..

/-! ### Where a pattern may end -/

/-- A reading at whose place a pattern may end. -/
def Ends : Reading → Prop
  | .plain | .star _ | .stars _ => True
  | _ => False

/-- A draft that is a whole pattern. -/
structure Whole (d : Draft) : Prop where
  ends : Ends d.reading
  closed : d.groups = []

theorem ends_kind {r : Reading} : Ends r.kind ↔ Ends r := by cases r <;> rfl

theorem Whole.congr (whole : Whole d) (same : d.status = d'.status) : Whole d' := by
  obtain ⟨kind, depth⟩ := Prod.mk.inj same
  refine ⟨ends_kind.mp (kind ▸ ends_kind.mpr whole.ends), ?_⟩
  rw [whole.closed] at depth
  exact List.eq_nil_of_length_eq_zero depth.symm

theorem finish_of_plain (plain : d.reading = .plain) :
    d.finish = if d.groups.isEmpty then .ok d.parts.reverse else .error .unclosedGroup := by
  rw [finish, plain]
  rfl

theorem finish_of_star {before : Option Char} (star : d.reading = .star before) :
    d.finish = if d.groups.isEmpty then .ok (d.parts.reverse ++ [.anyRun]) else .error .unclosedGroup := by
  rw [finish, star, ← List.reverse_cons]
  rfl

theorem finish_of_stars {before : Option Char} (stars : d.reading = .stars before) :
    d.finish = if d.groups.isEmpty then .ok (d.settleStars before none).1.parts.reverse else .error .unclosedGroup := by
  rw [finish, stars, ← (d.settleStars_frame before none).2.1]
  rfl

theorem exists_finish_iff : (∃ ts, d.finish = .ok ts) ↔ Whole d := by
  have closed : ∀ {ts : List Token}, (∃ us, (if d.groups.isEmpty then .ok ts else .error .unclosedGroup :
      Except Fault (List Token)) = .ok us) ↔ d.groups = [] := fun {ts} => by
    cases d.groups <;> simp
  cases hr : d.reading with
  | plain =>
    rw [finish_of_plain hr, closed]
    exact ⟨fun h => ⟨by simp [hr, Ends], h⟩, Whole.closed⟩
  | star before =>
    rw [finish_of_star hr, closed]
    exact ⟨fun h => ⟨by simp [hr, Ends], h⟩, Whole.closed⟩
  | stars before =>
    rw [finish_of_stars hr, closed]
    exact ⟨fun h => ⟨by simp [hr, Ends], h⟩, Whole.closed⟩
  | escaped | classStart | inClass _ _ _ _ =>
    refine iff_of_false (fun ⟨ts, h⟩ => ?_) fun h => ?_
    · rw [finish, hr] at h
      cases h
    · have ends := h.ends
      rw [hr] at ends
      exact ends

/-- An ordinary character is read as itself where a pattern may end. -/
theorem feed_of_ends (ends : Ends d.reading) (ordinary : c ∉ special) :
    ∃ e, d.feed c = .ok e ∧ e.reading = .plain ∧ e.groups = d.groups := by
  cases hr : d.reading with
  | plain =>
    rw [feed, hr]
    exact ⟨_, feedPlain_of_ordinary ordinary, rfl, rfl⟩
  | star before =>
    have other : c ≠ '*' := fun h => ordinary (by simp [special, h])
    rw [feed, hr]
    simp only [other, if_false]
    exact ⟨_, feedPlain_of_ordinary ordinary, rfl, rfl⟩
  | stars before =>
    obtain ⟨plain, groups, -⟩ := d.settleStars_frame before (some c)
    cases settled : d.settleStars before (some c) with
    | mk e took =>
      rw [settled] at plain groups
      cases took with
      | false => exact ⟨_, (feed_of_kept hr settled).trans (feedPlain_of_ordinary ordinary), rfl, groups⟩
      | true => exact ⟨_, feed_of_taken hr settled, plain, groups⟩
  | escaped | classStart | inClass _ _ _ _ =>
    rw [hr] at ends
    exact ends.elim

/-- A character in a class ends it or belongs to it. -/
theorem feedClass_cases {negated : Bool} {ranges : List (Char × Char)} {first openRange : Bool}
    (fed : d.feedClass negated ranges first openRange c = .ok d') :
    (c = ']' ∧ ∃ all, d' = { d with reading := .plain, last := some c }.push (.byteClass negated all)) ∨
      ∃ more joins, d' = { d with reading := .inClass negated more false joins, last := some c } := by
  simp only [feedClass] at fed
  split_ifs at fed with closed _ dash opened
  · exact Or.inl ⟨by simp_all, _, (Except.ok.inj fed).symm⟩
  · exact Or.inl ⟨by simp_all, _, (Except.ok.inj fed).symm⟩
  · exact Or.inr ⟨_, _, (Except.ok.inj fed).symm⟩
  · cases ranges with
    | nil => exact Or.inr ⟨_, _, (Except.ok.inj fed).symm⟩
    | cons range more =>
      dsimp only at fed
      split_ifs at fed
      exact Or.inr ⟨_, _, (Except.ok.inj fed).symm⟩
  · exact Or.inr ⟨_, _, (Except.ok.inj fed).symm⟩

/-- In a class nothing but a bracket leads to where a pattern may end. -/
theorem not_ends_of_feedClass {negated : Bool} {ranges : List (Char × Char)} {first openRange : Bool}
    (fed : d.feedClass negated ranges first openRange c = .ok d') (bracket : c ≠ ']') : ¬Ends d'.reading := by
  rcases feedClass_cases fed with ⟨rfl, -⟩ | ⟨_, _, rfl⟩
  · exact absurd rfl bracket
  · exact id

/-- An ordinary character makes no pattern whole, unless it was waited for after a backslash. -/
theorem whole_of_feed (fed : d.feed c = .ok d') (whole : Whole d') (ordinary : c ∉ special) (bracket : c ≠ ']')
    (escaped : d.reading ≠ .escaped) : Whole d := by
  by_cases ends : Ends d.reading
  · obtain ⟨e, fed', -, groups⟩ := feed_of_ends ends ordinary
    obtain rfl : d' = e := Except.ok.inj (fed.symm.trans fed')
    exact ⟨ends, groups.symm.trans whole.closed⟩
  · refine absurd whole.ends ?_
    rw [feed] at fed
    cases hr : d.reading with
    | escaped => exact absurd hr escaped
    | classStart =>
      rw [hr] at fed
      dsimp only at fed
      split_ifs at fed with negation
      · cases fed
        exact id
      · exact not_ends_of_feedClass fed bracket
    | inClass negated ranges first openRange =>
      rw [hr] at fed
      exact not_ends_of_feedClass fed bracket
    | plain | star _ | stars _ => simp [hr, Ends] at ends

/-! ### What holds of every draft -/

/-- A double star at the front stands alone, as far as it is the last part. -/
def LeadsAlone (d : Draft) : Prop := ∀ before, d.parts = .leadingDirs :: before → before = []

theorem leadsAlone_push (other : t ≠ .leadingDirs) : (d.push t).LeadsAlone := fun _ same =>
  absurd (List.cons.inj same).1 other

theorem LeadsAlone.pushDoubleStar (alone : d.LeadsAlone) (other : t ≠ .leadingDirs) :
    (d.pushDoubleStar t).LeadsAlone := by
  rw [Draft.pushDoubleStar]
  split
  · exact alone
  · exact alone
  · exact fun _ same => absurd (List.cons.inj same).1 other

theorem LeadsAlone.settleStars (alone : d.LeadsAlone) (before next : Option Char) :
    (d.settleStars before next).1.LeadsAlone := by
  have alone' : LeadsAlone { d with reading := .plain } := alone
  obtain ⟨empty, -, eq⟩ | eq | ⟨-, -, eq⟩ | ⟨-, eq⟩ | ⟨-, -, eq⟩ := d.settleStars_cases before next <;> rw [eq]
  · intro before same
    exact (List.cons.inj same).2.symm.trans empty
  · exact leadsAlone_push nofun
  · exact alone'.pushDoubleStar nofun
  · exact alone'.pushDoubleStar nofun
  · exact alone'.pushDoubleStar nofun

theorem feedPlain_frame (fed : d.feedPlain c = .ok d') :
    (d'.reading = .escaped → c = '\\') ∧ (d.LeadsAlone → d'.LeadsAlone) := by
  simp only [feedPlain] at fed
  split_ifs at fed with any star bracket opens closes comma backslash
  · cases fed
    exact ⟨nofun, fun _ => leadsAlone_push nofun⟩
  · cases fed
    exact ⟨nofun, id⟩
  · cases fed
    exact ⟨nofun, id⟩
  · cases fed
    exact ⟨nofun, fun _ => nofun⟩
  · cases groups : d.groups with
    | nil =>
      rw [closeGroup] at fed
      dsimp only at fed
      rw [groups] at fed
      cases fed
    | cons g groups =>
      rw [closeGroup] at fed
      dsimp only at fed
      rw [groups] at fed
      cases fed
      exact ⟨nofun, fun _ => nofun⟩
  · cases fed
    rw [nextBranch]
    dsimp only
    cases d.groups with
    | nil => exact ⟨nofun, fun _ => leadsAlone_push nofun⟩
    | cons g groups => exact ⟨nofun, fun _ => nofun⟩
  · exact ⟨fun _ => backslash, fun alone => by cases fed; exact alone⟩
  · cases fed
    exact ⟨nofun, fun _ => leadsAlone_push nofun⟩

theorem feedClass_frame {negated : Bool} {ranges : List (Char × Char)} {first openRange : Bool}
    (fed : d.feedClass negated ranges first openRange c = .ok d') :
    (d'.reading = .escaped → c = '\\') ∧ (d.LeadsAlone → d'.LeadsAlone) := by
  rcases feedClass_cases fed with ⟨-, all, rfl⟩ | ⟨_, _, rfl⟩
  · exact ⟨nofun, fun _ => leadsAlone_push nofun⟩
  · exact ⟨nofun, id⟩

/-- Only a backslash makes a reading wait for any character, and a double star at the front stays alone. -/
theorem feed_frame (fed : d.feed c = .ok d') :
    (d'.reading = .escaped → c = '\\') ∧ (d.LeadsAlone → d'.LeadsAlone) := by
  cases hr : d.reading with
  | plain =>
    rw [feed, hr] at fed
    exact feedPlain_frame fed
  | escaped =>
    rw [feed, hr] at fed
    cases fed
    exact ⟨nofun, fun _ => leadsAlone_push nofun⟩
  | star before =>
    rw [feed, hr] at fed
    dsimp only at fed
    split_ifs at fed
    · cases fed
      exact ⟨nofun, id⟩
    · obtain ⟨escaped, alone⟩ := feedPlain_frame fed
      exact ⟨escaped, fun _ => alone (leadsAlone_push nofun)⟩
  | stars before =>
    obtain ⟨plain, -, -⟩ := d.settleStars_frame before (some c)
    have alone := fun alone : d.LeadsAlone => alone.settleStars before (some c)
    cases settled : d.settleStars before (some c) with
    | mk e took =>
      rw [settled] at plain alone
      cases took with
      | false =>
        rw [feed_of_kept hr settled] at fed
        obtain ⟨escaped, keeps⟩ := feedPlain_frame fed
        exact ⟨escaped, fun h => keeps (alone h)⟩
      | true =>
        rw [feed_of_taken hr settled] at fed
        cases fed
        exact ⟨fun escaped => absurd (plain.symm.trans escaped) nofun, alone⟩
  | classStart =>
    rw [feed, hr] at fed
    dsimp only at fed
    split_ifs at fed
    · cases fed
      exact ⟨nofun, id⟩
    · exact feedClass_frame fed
  | inClass negated ranges first openRange =>
    rw [feed, hr] at fed
    exact feedClass_frame fed

end Draft
end TodoLedger.Glob
