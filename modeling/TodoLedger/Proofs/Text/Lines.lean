import Mathlib.Data.List.Basic
import TodoLedger.Text.Basic

/-! The lines of texts that are put together. A line feed ends a line whatever comes after it, and a text whose last line
is not ended gets no other line by a line feed. -/

namespace TodoLedger.Text

variable {a l r t line : Text} {c : Char}

theorem lines_cons (other : c ≠ '\n') (inner : c = '\r' → r.head? ≠ some '\n') :
    lines (c :: r) = (c :: (lines r).headD []) :: (lines r).tail := by
  rw [lines]
  · cases lines r <;> rfl
  · exact other
  · rintro u rfl rfl
    exact inner rfl rfl

theorem lines_ne_nil (some_text : r ≠ []) : lines r ≠ [] := by
  fun_cases lines r <;> simp_all

/-- A text begins with an ending or with a character that is no part of one. -/
theorem endings_induction {P : Text → Prop} (nil : P []) (newline : ∀ r, P r → P ('\n' :: r))
    (pair : ∀ r, P r → P ('\r' :: '\n' :: r))
    (other : ∀ c r, c ≠ '\n' → (c = '\r' → r.head? ≠ some '\n') → P r → P (c :: r)) (t : Text) : P t := by
  fun_induction lines t with
  | case1 => exact nil
  | case2 r ih => exact newline r ih
  | case3 r ih => exact pair r ih
  | case4 c r hn hr _ ih | case5 c r hn hr _ _ _ ih =>
    refine other c r (fun same => hn same) ?_ ih
    rintro rfl newline
    cases r with
    | nil => cases newline
    | cons d r =>
      obtain rfl := Option.some.inj newline
      exact hr r rfl rfl

theorem newline_notMem_of_mem_lines (mem : line ∈ lines t) : '\n' ∉ line := by
  induction t using endings_induction generalizing line with
  | nil => cases mem
  | newline r ih | pair r ih =>
    obtain rfl | later := List.mem_cons.mp mem
    · exact List.not_mem_nil
    · exact ih later
  | other c r hn hr ih =>
    rw [lines_cons hn hr] at mem
    obtain rfl | later := List.mem_cons.mp mem
    · refine List.not_mem_cons_of_ne_of_not_mem (Ne.symm hn) ?_
      cases first : lines r with
      | nil => exact List.not_mem_nil
      | cons line more =>
        have inside : line ∈ lines r := first ▸ List.mem_cons_self
        exact ih inside
    · exact ih (List.mem_of_mem_tail later)

/-- A line is what stands before a line feed, up to a carriage return. -/
theorem exists_lines_append (whole : '\n' ∉ l) (t : Text) :
    ∃ line, lines (l ++ '\n' :: t) = line :: lines t ∧ (line = l ∨ l = line ++ ['\r']) := by
  induction l with
  | nil => exact ⟨[], rfl, Or.inl rfl⟩
  | cons c l ih =>
    have other : c ≠ '\n' := fun same => whole (same ▸ List.mem_cons_self)
    obtain ⟨line, rest, ends⟩ := ih (List.not_mem_of_not_mem_cons whole)
    by_cases last : c = '\r' ∧ l = []
    · obtain ⟨rfl, rfl⟩ := last
      exact ⟨[], rfl, Or.inr rfl⟩
    · refine ⟨c :: line, ?_, ends.imp (congrArg (c :: ·)) (congrArg (c :: ·))⟩
      have inner : c = '\r' → (l ++ '\n' :: t).head? ≠ some '\n' := by
        rintro rfl newline
        cases l with
        | nil => exact last ⟨rfl, rfl⟩
        | cons d l =>
          obtain rfl := Option.some.inj newline
          exact whole (List.mem_cons_of_mem _ List.mem_cons_self)
      rw [List.cons_append, lines_cons other inner, rest]
      rfl

theorem lines_of_whole (whole : '\n' ∉ l) (some_text : l ≠ []) : lines l = [l] := by
  induction l with
  | nil => exact absurd rfl some_text
  | cons c l ih =>
    have other : c ≠ '\n' := fun same => whole (same ▸ List.mem_cons_self)
    have later := List.not_mem_of_not_mem_cons whole
    rw [lines_cons other fun _ newline => later (List.mem_of_mem_head? newline)]
    by_cases last : l = []
    · rw [last]
      rfl
    · rw [ih later last]
      rfl

/-- A text is a piece without line feeds, or one with a line feed and a text after it. -/
theorem pieces_induction {P : Text → Prop} (last : ∀ l, '\n' ∉ l → P l)
    (piece : ∀ l r, '\n' ∉ l → P r → P (l ++ '\n' :: r)) (t : Text) : P t := by
  induction size : t.length using Nat.strongRecOn generalizing t with
  | ind n ih =>
    by_cases whole : '\n' ∈ t
    · obtain ⟨l, r, rfl, before⟩ := List.eq_append_cons_of_mem whole
      refine piece l r before (ih r.length ?_ r rfl)
      rw [← size, List.length_append, List.length_cons]
      omega
    · exact last t whole

/-- Pieces that are ended by line feeds are split off one by one. -/
theorem splitOn_ended {pieces : List Text} (whole : ∀ piece ∈ pieces, '\n' ∉ piece) (last : '\n' ∉ t) :
    (pieces.flatMap (· ++ ['\n']) ++ t).splitOn '\n' = pieces ++ [t] := by
  induction pieces with
  | nil => exact List.splitOn_eq_singleton last
  | cons piece pieces ih =>
    obtain ⟨here, later⟩ := List.forall_mem_cons.mp whole
    rw [List.flatMap_cons, List.append_assoc, List.append_assoc, List.singleton_append,
      List.splitOn_append_cons_self_of_not_mem here, ih later, List.cons_append]

/-- What comes behind a line feed has its own lines. -/
theorem lines_append_newline (a b : Text) : lines (a ++ '\n' :: b) = lines (a ++ ['\n']) ++ lines b := by
  induction a using endings_induction with
  | nil => rfl
  | newline r ih => exact congrArg ([] :: ·) ih
  | pair r ih => exact congrArg ([] :: ·) ih
  | other c r hn hr ih =>
    cases r with
    | nil =>
      -- a carriage return at the end belongs to the line feed, whatever comes behind it
      by_cases return_here : c = '\r'
      · subst return_here
        rfl
      · have alone : ∀ u, lines (c :: '\n' :: u) = [c] :: lines u := fun u => lines_cons hn (absurd · return_here)
        exact (alone b).trans (congrArg (· ++ lines b) (alone [])).symm
    | cons d r =>
      have inner : ∀ u, lines (c :: (d :: r ++ u)) = (c :: (lines (d :: r ++ u)).headD []) :: (lines (d :: r ++ u)).tail :=
        fun u => lines_cons hn hr
      obtain ⟨line, more, first⟩ :=
        List.exists_cons_of_ne_nil (lines_ne_nil (r := d :: r ++ ['\n']) (List.cons_ne_nil _ _))
      show lines (c :: (d :: r ++ '\n' :: b)) = lines (c :: (d :: r ++ ['\n'])) ++ lines b
      rw [inner, inner, ih, first]
      rfl

theorem lines_append_of_ended (ended : a.getLast? = some '\n') (b : Text) : lines (a ++ b) = lines a ++ lines b := by
  obtain ⟨front, rfl⟩ := List.getLast?_eq_some_iff.mp ended
  rw [List.append_assoc]
  exact lines_append_newline front b

/-- A line feed behind a text ends its last line or adds an empty one. -/
theorem lines_append_end (no_return : a.getLast? ≠ some '\r') :
    ∃ n, lines (a ++ ['\n']) = lines a ++ List.replicate n [] := by
  induction a using endings_induction with
  | nil => exact ⟨1, rfl⟩
  | newline r ih =>
    obtain ⟨n, rest⟩ := ih fun last => no_return (by rw [List.getLast?_cons, last]; rfl)
    exact ⟨n, congrArg ([] :: ·) rest⟩
  | pair r ih =>
    obtain ⟨n, rest⟩ := ih fun last => no_return (by rw [List.getLast?_cons_cons, List.getLast?_cons, last]; rfl)
    exact ⟨n, congrArg ([] :: ·) rest⟩
  | other c r hn hr ih =>
    cases r with
    | nil =>
      have whole : c ≠ '\r' := fun same => no_return (congrArg some same)
      refine ⟨0, ?_⟩
      rw [List.cons_append, lines_cons hn (absurd · whole), lines_cons hn hr]
      rfl
    | cons d r =>
      obtain ⟨n, rest⟩ := ih no_return
      obtain ⟨line, more, first⟩ := List.exists_cons_of_ne_nil (lines_ne_nil (List.cons_ne_nil d r))
      have inner : lines (c :: (d :: r ++ ['\n'])) =
          (c :: (lines (d :: r ++ ['\n'])).headD []) :: (lines (d :: r ++ ['\n'])).tail := lines_cons hn hr
      exact ⟨n, inner.trans (by rw [rest, lines_cons hn hr, first]; rfl)⟩

theorem lines_append_gap (no_return : a.getLast? ≠ some '\r') :
    ∃ n, lines (a ++ "\n\n".toList) = lines a ++ List.replicate (n + 1) [] := by
  obtain ⟨n, ended⟩ := lines_append_end no_return
  refine ⟨n, ?_⟩
  calc lines (a ++ ['\n', '\n']) = lines (a ++ ['\n']) ++ [[]] := lines_append_newline a ['\n']
    _ = lines a ++ List.replicate (n + 1) [] := by rw [ended, List.append_assoc, List.replicate_succ']

/-! ### Lines of their own -/

/-- A piece in front of a line feed is a line, unless a carriage return at its end goes with the line feed. -/
theorem lines_append_piece (whole : '\n' ∉ l) (no_return : l.getLast? ≠ some '\r') (t : Text) :
    lines (l ++ '\n' :: t) = l :: lines t := by
  obtain ⟨line, first, rfl | rfl⟩ := exists_lines_append whole t
  · exact first
  · exact absurd List.getLast?_concat no_return

/-- A text that is one line and is read as such with a line feed behind it. -/
structure IsLine (l : Text) : Prop where
  some_text : l ≠ []
  whole : '\n' ∉ l
  no_return : l.getLast? ≠ some '\r'

variable {pieces : List Text}

theorem lines_pieces (own : ∀ piece ∈ pieces, IsLine piece) : lines (pieces.flatMap (· ++ ['\n'])) = pieces := by
  induction pieces with
  | nil => rfl
  | cons piece pieces ih =>
    obtain ⟨here, later⟩ := List.forall_mem_cons.mp own
    rw [List.flatMap_cons, List.append_assoc, List.singleton_append, lines_append_piece here.whole here.no_return,
      ih later]

/-- A text is empty, ends in a line feed, or has an open last line. -/
theorem ending_cases (t : Text) : t = [] ∨ t.getLast? = some '\n' ∨
    ∃ front last, t = front ++ last ∧ (front = [] ∨ front.getLast? = some '\n') ∧ last ≠ [] ∧ '\n' ∉ last := by
  induction t using pieces_induction with
  | last l whole =>
    by_cases nothing : l = []
    · exact Or.inl nothing
    · exact Or.inr (Or.inr ⟨[], l, rfl, Or.inl rfl, nothing, whole⟩)
  | piece l r whole ih =>
    right
    obtain rfl | ended | ⟨front, last, rfl, start, some_text, open_line⟩ := ih
    · exact Or.inl List.getLast?_concat
    · left
      rw [List.getLast?_append, List.getLast?_cons, ended]
      rfl
    · refine Or.inr ⟨l ++ '\n' :: front, last, by rw [List.append_assoc, List.cons_append], Or.inr ?_, some_text,
        open_line⟩
      rw [List.getLast?_append, List.getLast?_cons]
      rcases start with rfl | ended
      · rfl
      · rw [ended]
        rfl

theorem lines_append_of_start (start : a = [] ∨ a.getLast? = some '\n') (b : Text) :
    lines (a ++ b) = lines a ++ lines b := by
  rcases start with rfl | ended
  · rfl
  · exact lines_append_of_ended ended b

/-- Behind an open last line the first of the lines that are added goes on with it. -/
theorem lines_append_open {front last piece : Text} (start : front = [] ∨ front.getLast? = some '\n')
    (some_text : last ≠ []) (open_line : '\n' ∉ last) (own : ∀ p ∈ piece :: pieces, IsLine p) :
    lines (front ++ last) = lines front ++ [last] ∧
      lines (front ++ last ++ (piece :: pieces).flatMap (· ++ ['\n'])) = lines front ++ (last ++ piece) :: pieces := by
  obtain ⟨here, later⟩ := List.forall_mem_cons.mp own
  have joined : '\n' ∉ last ++ piece := fun mem => (List.mem_append.mp mem).elim open_line here.whole
  have no_return : (last ++ piece).getLast? ≠ some '\r' := by
    rw [List.getLast?_append, Option.or_of_isSome (by simpa using here.some_text)]
    exact here.no_return
  refine ⟨by rw [lines_append_of_start start, lines_of_whole open_line some_text], ?_⟩
  rw [List.append_assoc, lines_append_of_start start, List.flatMap_cons, ← List.append_assoc, ← List.append_assoc,
    List.append_assoc, List.singleton_append, lines_append_piece joined no_return, lines_pieces later]

/-- Lines that are added to a text stand as lines of their own behind those it had if and only if its last line is ended. -/
theorem lines_append_pieces_iff {piece : Text} (own : ∀ p ∈ piece :: pieces, IsLine p) (t : Text) :
    lines (t ++ (piece :: pieces).flatMap (· ++ ['\n'])) = lines t ++ piece :: pieces ↔
      t = [] ∨ t.getLast? = some '\n' := by
  constructor
  · intro kept
    obtain nothing | ended | ⟨front, last, rfl, start, some_text, open_line⟩ := ending_cases t
    · exact Or.inl nothing
    · exact Or.inr ended
    · obtain ⟨before, after⟩ := lines_append_open start some_text open_line own
      rw [before, after, List.append_assoc, List.append_cancel_left_eq] at kept
      have longer := congrArg List.length kept
      simp at longer
  · intro start
    rw [lines_append_of_start start, lines_pieces own]

end TodoLedger.Text
