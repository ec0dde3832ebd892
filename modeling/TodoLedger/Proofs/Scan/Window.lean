import TodoLedger.Proofs.Scan.Hits

/-! Windows against the lines they are taken from. The window of a line is the widest part of the lines around it that
holds no other blank line and no more lines on either side than the limit. The loops that look for it, line by line in
both directions, come to it within the limit and without leaving the lines. -/

namespace TodoLedger.Window

variable {lines earlier later : List Text} {line : Text} {number limit largest taken turns place index next : Nat}
  {w v : Window}

/-! ### Lines within reach -/

@[simp] theorem reach_zero (lines : List Text) : reach 0 lines = [] := by
  rw [reach, List.take_zero, List.takeWhile_nil]

@[simp] theorem reach_nil (limit : Nat) : reach limit [] = [] := by
  rw [reach, List.take_nil, List.takeWhile_nil]

theorem reach_succ_cons (limit : Nat) (line : Text) (lines : List Text) :
    reach (limit + 1) (line :: lines) = if Text.allBlank line then [] else line :: reach limit lines := by
  rw [reach, List.take_succ_cons, List.takeWhile_cons, ← reach]
  cases Text.allBlank line <;> rfl

theorem length_reach_le (limit : Nat) (lines : List Text) : (reach limit lines).length ≤ limit :=
  (List.takeWhile_prefix _).length_le.trans (List.length_take_le limit lines)

theorem allBlank_of_mem_reach (hl : line ∈ reach limit lines) : Text.allBlank line = false := by
  simpa using List.mem_takeWhile_imp hl

/-- Lines are out of reach for three reasons: the limit, the end of the lines, or a blank line. -/
theorem reach_stops (limit : Nat) (lines : List Text) :
    (reach limit lines).length = limit ∨ (reach limit lines).length = lines.length ∨
      ∃ line, lines[(reach limit lines).length]? = some line ∧ Text.allBlank line = true := by
  induction limit generalizing lines with
  | zero => exact Or.inl (by rw [reach_zero, List.length_nil])
  | succ limit ih =>
    cases lines with
    | nil => exact Or.inr (Or.inl (by rw [reach_nil]))
    | cons line lines =>
      rw [reach_succ_cons]
      split
      · rename_i blank
        exact Or.inr (Or.inr ⟨line, rfl, blank⟩)
      · rw [List.length_cons, List.length_cons, List.getElem?_cons_succ, Nat.add_right_cancel_iff,
          Nat.add_right_cancel_iff]
        exact ih lines

/-! ### The widest window -/

/-- The line with a number, counted from one, is blank. -/
def BlankAt (lines : List Text) (n : Nat) : Prop :=
  ∃ i line, n = i + 1 ∧ lines[i]? = some line ∧ Text.allBlank line = true

/-- The window of the line with a number is a part of the lines, none of which is blank but that line itself, and on
neither side are there more lines than the limit. A side has fewer only where the lines end or the next one is blank. -/
structure Widest (lines : List Text) (number limit : Nat) (w : Window) : Prop where
  first : w.triggerIndex < number
  last : number + w.after.length ≤ lines.length
  slice : w.lines = (lines.drop (number - 1 - w.triggerIndex)).take (w.triggerIndex + 1 + w.after.length)
  no_blank : ∀ n, number - w.triggerIndex ≤ n → n ≤ number + w.after.length → n ≠ number → ¬BlankAt lines n
  before_le : w.triggerIndex ≤ limit
  after_le : w.after.length ≤ limit
  before_stops : w.triggerIndex = limit ∨ number - w.triggerIndex = 1 ∨
    BlankAt lines (number - w.triggerIndex - 1)
  after_stops : w.after.length = limit ∨ number + w.after.length = lines.length ∨
    BlankAt lines (number + w.after.length + 1)

theorem length_lines (w : Window) : w.lines.length = w.triggerIndex + 1 + w.after.length := by
  rw [Nat.add_assoc, Nat.add_comm 1]
  exact List.length_append

theorem getElem?_reverse_take {i m : Nat} (hi : i ≤ lines.length) (hm : m < i) :
    (lines.take i).reverse[m]? = lines[i - m - 1]? := by
  have length : (lines.take i).length = i := List.length_take_of_le hi
  rw [List.getElem?_reverse (by omega), length, List.getElem?_take_of_lt (by omega)]
  congr 1
  omega

/-- What is within reach on one side of a line is not blank, whatever numbers the lines there have. -/
theorem not_blankAt_of_reach {side : List Text} {n m : Nat} (limit : Nat) (same : side[m]? = lines[n - 1]?)
    (hm : m < (reach limit side).length) : ¬BlankAt lines n := by
  rintro ⟨i, line, rfl, hl, blank⟩
  have inside : (reach limit side)[m]? = some line := by
    have front : reach limit side <+: side := reach_prefix limit side
    rw [← hl, ← Nat.add_sub_cancel (n := i), ← same]
    exact List.prefix_iff_getElem?.mp front m hm ▸ List.getElem?_eq_getElem hm
  rw [allBlank_of_mem_reach (List.mem_of_getElem? inside)] at blank
  cases blank

theorem widest_around {i : Nat} (limit : Nat) (hl : lines[i]? = some line) :
    Widest lines (i + 1) limit (around limit (lines.take i).reverse line (lines.drop (i + 1))) := by
  obtain ⟨hi, -⟩ := List.getElem?_eq_some_iff.mp hl
  let back := (lines.take i).reverse
  let ahead := lines.drop (i + 1)
  let w := around limit back line ahead
  change Widest lines (i + 1) limit w
  have before : w.triggerIndex = (reach limit back).length := List.length_reverse
  have after : w.after.length = (reach limit ahead).length := rfl
  have back_length : back.length = i := by rw [List.length_reverse, List.length_take_of_le (Nat.le_of_lt hi)]
  have ahead_length : ahead.length = lines.length - (i + 1) := List.length_drop
  have back_at : ∀ m < i, back[m]? = lines[i - m - 1]? := fun m => getElem?_reverse_take (Nat.le_of_lt hi)
  have ahead_at : ∀ m, ahead[m]? = lines[i + 1 + m]? := fun m => List.getElem?_drop
  have before_short := List.IsPrefix.length_le <| reach_prefix limit back
  have after_short := List.IsPrefix.length_le <| reach_prefix limit ahead
  refine {
    first := by omega
    last := by omega
    slice := ?_
    no_blank := fun n from_before to_after other => ?_
    before_le := before ▸ length_reach_le limit back
    after_le := length_reach_le limit ahead
    before_stops := ?_
    after_stops := ?_ }
  · rw [← length_lines]
    exact (lines_around limit hl).2
  · rcases Nat.lt_or_gt_of_ne other with earlier | later
    · have same : back[i - n]? = lines[n - 1]? := by rw [back_at _ (by omega), Nat.sub_sub_self (by omega)]
      exact not_blankAt_of_reach limit same (by omega)
    · have same : ahead[n - i - 2]? = lines[n - 1]? := by rw [ahead_at, show i + 1 + (n - i - 2) = n - 1 by omega]
      exact not_blankAt_of_reach limit same (by omega)
  · rw [before]
    refine (reach_stops limit back).imp id (Or.imp (fun all => by omega) ?_)
    rintro ⟨line, hl, blank⟩
    have inside : (reach limit back).length < i := back_length ▸ (List.getElem?_eq_some_iff.mp hl).1
    exact ⟨_, line, by omega, (back_at _ inside).symm.trans hl, blank⟩
  · rw [after]
    refine (reach_stops limit ahead).imp id (Or.imp (fun all => by omega) ?_)
    rintro ⟨line, hl, blank⟩
    exact ⟨_, line, rfl, (ahead_at _).symm.trans hl, blank⟩

/-! ### Only one window is the widest -/

namespace Widest

theorem triggerIndex_le (a : Widest lines number limit w) (b : Widest lines number limit v) :
    w.triggerIndex ≤ v.triggerIndex := by
  have first := a.first
  have within := a.before_le
  by_contra longer
  -- whatever stops the shorter window stands within the longer one
  rcases b.before_stops with full | top | blank
  · omega
  · omega
  · exact a.no_blank _ (by omega) (by omega) (by omega) blank

theorem length_after_le (a : Widest lines number limit w) (b : Widest lines number limit v) :
    w.after.length ≤ v.after.length := by
  have last := a.last
  have within := a.after_le
  by_contra longer
  rcases b.after_stops with full | bottom | blank
  · omega
  · omega
  · exact a.no_blank _ (by omega) (by omega) (by omega) blank

theorem unique (a : Widest lines number limit w) (b : Widest lines number limit v) : w = v := by
  have before := Nat.le_antisymm (a.triggerIndex_le b) (b.triggerIndex_le a)
  have after := Nat.le_antisymm (a.length_after_le b) (b.length_after_le a)
  have same : w.lines = v.lines := by rw [a.slice, b.slice, before, after]
  obtain ⟨hb, rest⟩ := List.append_inj same before
  obtain ⟨ht, ha⟩ := List.cons.inj rest
  cases w
  cases v
  exact congr (congrArg₂ Window.mk hb ht) ha

end Widest

theorem at?_eq_none_iff : at? lines number limit = none ↔ number = 0 ∨ lines.length < number := by
  cases number with
  | zero => simp [at?]
  | succ i =>
    cases hl : lines[i]? with
    | none =>
      have outside := List.getElem?_eq_none_iff.mp hl
      rw [at?, List.drop_eq_nil_of_le outside]
      exact iff_of_true rfl (Or.inr (Nat.lt_succ_of_le outside))
    | some line =>
      have inside := (List.getElem?_eq_some_iff.mp hl).1
      rw [at?_succ limit hl]
      exact iff_of_false (Option.some_ne_none _) (by omega)

theorem at?_eq_some_iff : at? lines number limit = some w ↔ Widest lines number limit w := by
  have widest : ∀ {v}, at? lines number limit = some v → Widest lines number limit v := by
    intro v hv
    cases number with
    | zero => cases hv
    | succ i =>
      cases hl : lines[i]? with
      | none =>
        have outside := List.getElem?_eq_none_iff.mp hl
        rw [at?_eq_none_iff.mpr (Or.inr (Nat.lt_succ_of_le outside))] at hv
        cases hv
      | some line =>
        obtain rfl := Option.some.inj ((at?_succ limit hl).symm.trans hv)
        exact widest_around limit hl
  -- a window that is the widest has its line among the lines, so one is found, and there is no other
  refine ⟨widest, fun a => ?_⟩
  have inside : ¬(number = 0 ∨ lines.length < number) := by
    have first := a.first
    have last := a.last
    omega
  obtain ⟨v, hv⟩ := Option.ne_none_iff_exists'.mp (mt at?_eq_none_iff.mp inside)
  rw [hv, (widest hv).unique a]

/-! ### Looking for the window in turns -/

/-- What a loop that reads lines at places could fail on. -/
inductive Fault where
  /-- There is no line at the place. -/
  | outside
  /-- A place or a count is larger than numbers are. -/
  | overflow
  /-- The loop needs more turns. -/
  | unfinished

/-- The sides of a line. -/
inductive Side where
  | before
  | after

namespace Side

variable {side : Side}

/-- The place that a loop reads next and the one it is at afterwards, unless it is at the edge of `count` lines. Before a
line it steps and reads where it comes to, after it it reads where it is and steps. -/
def next? (count : Nat) : Side → Nat → Option (Nat × Nat)
  | before, place => if 0 < place then some (place - 1, place - 1) else none
  | after, place => if place < count then some (place, place + 1) else none

/-- The lines that a loop has not read, nearest first. -/
def unread (lines : List Text) : Side → Nat → List Text
  | before, place => (lines.take place).reverse
  | after, place => lines.drop place

theorem unread_of_next?_none (none_left : side.next? lines.length place = none) : side.unread lines place = [] := by
  cases side with
  | before =>
    have edge : place = 0 := by simpa [next?] using none_left
    rw [unread, edge, List.take_zero, List.reverse_nil]
  | after =>
    have edge : lines.length ≤ place := by simpa [next?] using none_left
    exact List.drop_eq_nil_of_le edge

theorem unread_of_next?_some (within : place ≤ lines.length)
    (step : side.next? lines.length place = some (index, next)) :
    ∃ line, lines[index]? = some line ∧ side.unread lines place = line :: side.unread lines next ∧
      next ≤ lines.length := by
  cases side with
  | before =>
    obtain ⟨pos, same⟩ := Option.ite_none_right_eq_some.mp step
    obtain ⟨rfl, rfl⟩ := Prod.mk.inj (Option.some.inj same)
    obtain ⟨i, rfl⟩ := Nat.exists_eq_add_one_of_ne_zero (Nat.ne_of_gt pos)
    refine ⟨lines[i], List.getElem?_eq_getElem within, ?_, Nat.le_of_lt within⟩
    rw [unread, Nat.add_sub_cancel, unread, List.take_succ_eq_append_getElem within, List.reverse_concat]
  | after =>
    obtain ⟨inside, same⟩ := Option.ite_none_right_eq_some.mp step
    obtain ⟨rfl, rfl⟩ := Prod.mk.inj (Option.some.inj same)
    exact ⟨lines[place], List.getElem?_eq_getElem inside, List.drop_eq_getElem_cons inside, inside⟩

end Side

/-- The lines that a loop takes on one side of a line, until it has as many as the limit allows, is at the edge of the
lines or reads a blank one. Each line that is read costs a turn, and no number may be larger than `largest`. -/
def walk (largest : Nat) (lines : List Text) (limit : Nat) (side : Side) (turns taken place : Nat) :
    Except Fault (List Text) :=
  if taken < limit then
    match side.next? lines.length place with
    | none => .ok []
    | some (index, next) =>
      match turns with
      | 0 => .error .unfinished
      | turns + 1 =>
        match lines[index]? with
        | none => .error .outside
        | some line =>
          if Text.allBlank line then .ok []
          else if taken < largest ∧ next ≤ largest then
            (walk largest lines limit side turns (taken + 1) next).map (line :: ·)
          else .error .overflow
  else .ok []

/-- A loop takes the lines within reach, in no more turns than there are lines or than the limit allows. -/
theorem walk_eq {side : Side} (fits : lines.length ≤ largest) (room : limit ≤ largest) (within : place ≤ lines.length)
    (enough : min (limit - taken) (side.unread lines place).length ≤ turns) :
    walk largest lines limit side turns taken place = .ok (reach (limit - taken) (side.unread lines place)) := by
  -- a loop without turns that could go on has a line left that `enough` counts
  fun_induction walk largest lines limit side turns taken place with
  | case1 turns taken place more edge => rw [Side.unread_of_next?_none edge, reach_nil]
  | case2 taken place more index next step =>
    obtain ⟨line, -, unread, -⟩ := Side.unread_of_next?_some within step
    rw [unread, List.length_cons] at enough
    omega
  | case3 taken place more index next step turns outside =>
    obtain ⟨line, inside, -, -⟩ := Side.unread_of_next?_some within step
    rw [outside] at inside
    cases inside
  | case4 taken place more index next step turns line inside blank =>
    obtain ⟨line', inside', unread, -⟩ := Side.unread_of_next?_some within step
    obtain rfl : line = line' := Option.some.inj (inside.symm.trans inside')
    rw [unread, show limit - taken = limit - (taken + 1) + 1 by omega, reach_succ_cons, if_pos blank]
  | case5 taken place more index next step turns line inside text _ ih =>
    obtain ⟨line', inside', unread, within'⟩ := Side.unread_of_next?_some within step
    obtain rfl : line = line' := Option.some.inj (inside.symm.trans inside')
    rw [unread, List.length_cons] at enough
    rw [ih within' (by omega), unread, show limit - taken = limit - (taken + 1) + 1 by omega, reach_succ_cons,
      if_neg text]
    rfl
  | case6 taken place more index next step turns line _ _ overflow =>
    obtain ⟨-, -, -, within'⟩ := Side.unread_of_next?_some within step
    exact absurd ⟨by omega, by omega⟩ overflow
  | case7 turns taken place full =>
    rw [Nat.sub_eq_zero_of_le (Nat.le_of_not_lt full), reach_zero]

/-- The window of the line with a number, with a loop for each side of it. A loop has as many turns as the limit allows or
as there are lines. -/
def inTurns (largest : Nat) (lines : List Text) (number limit : Nat) : Except Fault (Option Window) :=
  if number = 0 ∨ lines.length < number then .ok none
  else
    match lines[number - 1]? with
    | none => .error .outside
    | some trigger => do
      let turns := min limit lines.length
      let before ← walk largest lines limit .before turns 0 (number - 1)
      let after ← walk largest lines limit .after turns 0 number
      return some ⟨before.reverse, trigger, after⟩

theorem inTurns_eq (fits : lines.length ≤ largest) (room : limit ≤ largest) :
    inTurns largest lines number limit = .ok (at? lines number limit) := by
  rw [inTurns]
  split
  · rename_i outside
    rw [at?_eq_none_iff.mpr outside]
  · rename_i inside
    obtain ⟨i, rfl⟩ : ∃ i, number = i + 1 := Nat.exists_eq_add_one_of_ne_zero fun zero => inside (Or.inl zero)
    have hi : i < lines.length := by omega
    have before : walk largest lines limit .before (min limit lines.length) 0 i =
        .ok (reach limit (lines.take i).reverse) := by
      refine walk_eq fits room (Nat.le_of_lt hi) ?_
      rw [Side.unread, List.length_reverse, List.length_take]
      omega
    have after : walk largest lines limit .after (min limit lines.length) 0 (i + 1) =
        .ok (reach limit (lines.drop (i + 1))) := by
      refine walk_eq fits room hi ?_
      rw [Side.unread, List.length_drop]
      omega
    have hl := List.getElem?_eq_getElem hi
    rw [at?_succ limit hl, Nat.add_sub_cancel, hl]
    simp only [before, after]
    rfl

/-- There is a window for each line and for no other number, and it is the widest: a slice of the lines from some lines
before the line to some lines after it, with no other blank line in it and no more lines on a side than the limit, and
with fewer only where the lines end or a blank line comes next. Reading line by line, with two loops that have no more
turns than there are lines or than the limit allows, comes to the same: no place is read that has no line, and no number
becomes too large, however large the limit is. -/
theorem at?_finds_widest (lines : List Text) (number limit : Nat) :
    (at? lines number limit = none ↔ number = 0 ∨ lines.length < number) ∧
    (∀ w, at? lines number limit = some w ↔ Widest lines number limit w) ∧
    ∀ largest, lines.length ≤ largest → limit ≤ largest →
      inTurns largest lines number limit = .ok (at? lines number limit) :=
  ⟨at?_eq_none_iff, fun _ => at?_eq_some_iff, fun _ => inTurns_eq⟩

/-- The window of a blank line, with a limit as large as numbers are. -/
theorem at?_finds_widest_of_blank_line :
    let lines := ["a".toList, "  ".toList, "# todo".toList, [], "b".toList]
    let largest := UInt64.size - 1
    let w : Window := ⟨["a".toList], "  ".toList, ["# todo".toList]⟩
    lines.length ≤ largest ∧ largest ≤ largest ∧ Widest lines 2 largest w ∧
      inTurns largest lines 2 largest = .ok (some w) := by
  intro lines largest w
  have fits : lines.length ≤ largest := by decide
  have found : at? lines 2 largest = some w := by decide +kernel
  obtain ⟨-, widest, in_turns⟩ := at?_finds_widest lines 2 largest
  exact ⟨fits, Nat.le_refl _, (widest w).mp found, (in_turns largest fits (Nat.le_refl _)).trans (congrArg _ found)⟩

end TodoLedger.Window
