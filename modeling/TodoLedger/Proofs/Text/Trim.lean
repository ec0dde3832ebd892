import Mathlib.Data.List.Basic
import Mathlib.Data.List.TakeWhile
import TodoLedger.Text.Basic
import TodoLedger.Text.Word

/-! Texts with blanks around them. Trimming takes away what was put around a text, and whatever a text is searched
for that neither begins nor ends with a blank stands in it at the same place, blanks around it or not. -/

namespace TodoLedger.Text

variable {b t u mark : Text} {c : Char}

/-! ### Blank characters -/

/-- The code points of the blank characters. -/
def blankPoints : List Nat :=
  [9, 10, 11, 12, 13, 0x20, 0x85, 0xA0, 0x1680, 0x2000, 0x2001, 0x2002, 0x2003, 0x2004, 0x2005, 0x2006, 0x2007,
    0x2008, 0x2009, 0x200A, 0x2028, 0x2029, 0x202F, 0x205F, 0x3000]

theorem toNat_mem_blankPoints (hc : isBlank c = true) : c.toNat ∈ blankPoints := by
  simp only [isBlank, Bool.or_eq_true, Bool.and_eq_true, decide_eq_true_eq, beq_iff_eq] at hc
  simp only [blankPoints, List.mem_cons, List.not_mem_nil, or_false]
  omega

/-- What holds at every blank code point holds of every blank. -/
theorem of_isBlank {P : Char → Prop} (all : ∀ n ∈ blankPoints, P (Char.ofNat n)) (hc : isBlank c = true) : P c := by
  have at_point := all _ (toNat_mem_blankPoints hc)
  rwa [Char.ofNat_toNat] at at_point

theorem isWord_of_isBlank (hc : isBlank c = true) : isWord c = false :=
  of_isBlank (P := fun c => isWord c = false) (by decide +kernel) hc

/-! ### Texts of blanks -/

theorem isBlank_of_mem (hb : allBlank b = true) (hc : c ∈ b) : isBlank c = true :=
  List.all_eq_true.mp hb c hc

theorem allBlank_of_cons (hb : allBlank (c :: b) = true) : isBlank c = true ∧ allBlank b = true := by
  simpa [allBlank] using hb

/-- No blank belongs to a word, so a text of blanks does not start in one. -/
theorem startsInWord_append (hb : allBlank b = true) : startsInWord (t ++ b) = startsInWord t := by
  cases t with
  | cons c r => rfl
  | nil =>
    cases b with
    | nil => rfl
    | cons c r => exact isWord_of_isBlank (allBlank_of_cons hb).1

theorem takeWhile_append_of_blank {p : Char → Bool} (stop : ∀ c, isBlank c = true → p c = false)
    (hb : allBlank b = true) : (t ++ b).takeWhile p = t.takeWhile p := by
  induction t with
  | cons c r ih => simp [List.takeWhile_cons, ih]
  | nil =>
    cases b with
    | nil => rfl
    | cons c r => simp [stop c (allBlank_of_cons hb).1]

/-! ### Trimming -/

theorem trimStart_of_allBlank (hb : allBlank b = true) : trimStart b = [] :=
  List.dropWhile_eq_nil_iff.mpr fun _ hc => isBlank_of_mem hb hc

theorem trimStart_append_left (hb : allBlank b = true) : trimStart (b ++ t) = trimStart t :=
  List.dropWhile_append_of_pos fun _ hc => isBlank_of_mem hb hc

theorem trimStart_append_right (ht : trimStart t ≠ []) : trimStart (t ++ u) = trimStart t ++ u := by
  rw [trimStart, List.dropWhile_append, ← trimStart, if_neg (by simpa using ht)]

theorem trimEnd_append_right (hb : allBlank b = true) : trimEnd (t ++ b) = trimEnd t := by
  have backwards : ∀ c ∈ b.reverse, isBlank c = true := fun c hc => isBlank_of_mem hb (List.mem_reverse.mp hc)
  rw [trimEnd, trimEnd, dropEndWhile, dropEndWhile, List.reverse_append, List.dropWhile_append_of_pos backwards]

theorem trim_append_right (hb : allBlank b = true) : trim (t ++ b) = trim t := by
  rw [trim, trim]
  by_cases ht : trimStart t = []
  · -- nothing but blanks: the leading ones reach into `b`
    have blank : allBlank t = true := List.all_eq_true.mpr (List.dropWhile_eq_nil_iff.mp ht)
    rw [trimStart_append_left blank, trimStart_of_allBlank hb, ht]
  · rw [trimStart_append_right ht, trimEnd_append_right hb]

theorem trim_append_left (hb : allBlank b = true) : trim (b ++ t) = trim t := by
  rw [trim, trim, trimStart_append_left hb]

theorem exists_dropped_before (p : Char → Bool) (t : Text) : ∃ front, front.all p = true ∧ t = front ++ t.dropWhile p :=
  ⟨t.takeWhile p, List.all_takeWhile, List.takeWhile_append_dropWhile.symm⟩

theorem exists_dropped_after (p : Char → Bool) (t : Text) :
    ∃ back, back.all p = true ∧ t = dropEndWhile p t ++ back := by
  obtain ⟨back, all, split⟩ := exists_dropped_before p t.reverse
  refine ⟨back.reverse, ?_, ?_⟩
  · rw [List.all_reverse]
    exact all
  · rw [dropEndWhile, ← List.reverse_append, ← split, List.reverse_reverse]

theorem exists_blanks_before (t : Text) : ∃ b, allBlank b = true ∧ t = b ++ trimStart t :=
  exists_dropped_before isBlank t

theorem exists_blanks_after (t : Text) : ∃ b, allBlank b = true ∧ t = trimEnd t ++ b :=
  exists_dropped_after isBlank t

/-- A text is its trimmed text between blanks. -/
theorem exists_blanks_around (t : Text) :
    ∃ lead trail, allBlank lead = true ∧ allBlank trail = true ∧ t = lead ++ (trim t ++ trail) := by
  obtain ⟨lead, hl, front⟩ := exists_blanks_before t
  obtain ⟨trail, ht, back⟩ := exists_blanks_after (trimStart t)
  exact ⟨lead, trail, hl, ht, by rw [trim, ← back, ← front]⟩

theorem mem_of_mem_trim (hc : c ∈ trim t) : c ∈ t := by
  obtain ⟨lead, trail, -, -, split⟩ := exists_blanks_around t
  rw [split]
  exact List.mem_append_right _ (List.mem_append_left _ hc)

/-! ### Leading and trailing copies -/

theorem isPrefixOf?_eq_none_iff {α : Type} [BEq α] [LawfulBEq α] {mark t : List α} :
    mark.isPrefixOf? t = none ↔ ¬mark <+: t := by
  rw [Option.eq_none_iff_forall_ne_some]
  constructor
  · rintro none_left ⟨rest, whole⟩
    exact none_left rest (List.isPrefixOf?_eq_some_iff_append_eq.mpr whole)
  · intro apart rest whole
    exact apart ⟨rest, List.isPrefixOf?_eq_some_iff_append_eq.mp whole⟩

theorem dropCopies_of_not_prefix (ht : ¬mark <+: t) (n : Nat) : dropCopies mark n t = t := by
  cases n with
  | zero => rfl
  | succ n => simp only [dropCopies, isPrefixOf?_eq_none_iff.mpr ht]

theorem trimStartOf_append_of_not_prefix (hm : mark ≠ []) (ht : ¬mark <+: t) : trimStartOf mark (mark ++ t) = t := by
  have some_text : (mark ++ t).length ≠ 0 := mt List.length_eq_zero_iff.mp (List.append_ne_nil_of_left_ne_nil hm t)
  obtain ⟨n, length⟩ := Nat.exists_eq_add_one_of_ne_zero some_text
  rw [trimStartOf, length, dropCopies, List.isPrefixOf?_eq_some_iff_append_eq.mpr rfl]
  exact dropCopies_of_not_prefix ht n

/-- What is dropped in front of a text are characters of the copies. -/
theorem exists_copies_before (part : Text) (n : Nat) (t : Text) :
    ∃ front, (∀ c ∈ front, c ∈ part) ∧ t = front ++ dropCopies part n t := by
  induction n generalizing t with
  | zero => exact ⟨[], nofun, rfl⟩
  | succ n ih =>
    rw [dropCopies]
    split
    · rename_i rest hr
      obtain ⟨front, inside, split⟩ := ih rest
      refine ⟨part ++ front, List.forall_mem_append.mpr ⟨fun _ hc => hc, inside⟩, ?_⟩
      rw [List.append_assoc, ← split]
      exact (List.isPrefixOf?_eq_some_iff_append_eq.mp hr).symm
    · exact ⟨[], nofun, rfl⟩

/-- Every copy is dropped, and nothing else. -/
theorem exists_copies_trimStartOf (hm : mark ≠ []) (t : Text) :
    ∃ n, t = (List.replicate n mark).flatten ++ trimStartOf mark t ∧ ¬mark <+: trimStartOf mark t := by
  suffices copies : ∀ n, t.length ≤ n →
      ∃ m, t = (List.replicate m mark).flatten ++ dropCopies mark n t ∧ ¬mark <+: dropCopies mark n t from
    copies t.length (Nat.le_refl _)
  intro n length
  induction n generalizing t with
  | zero =>
    obtain rfl := List.eq_nil_of_length_eq_zero (Nat.le_zero.mp length)
    exact ⟨0, rfl, mt List.prefix_nil.mp hm⟩
  | succ n ih =>
    rw [dropCopies]
    split
    · rename_i rest hr
      obtain rfl := List.isPrefixOf?_eq_some_iff_append_eq.mp hr
      have some_mark := List.length_pos_iff.mpr hm
      rw [List.length_append] at length
      obtain ⟨m, split, none_left⟩ := ih rest (by omega)
      refine ⟨m + 1, ?_, none_left⟩
      rw [List.replicate_succ, List.flatten_cons, List.append_assoc, ← split]
    · rename_i none_here
      exact ⟨0, rfl, isPrefixOf?_eq_none_iff.mp none_here⟩

theorem dropCopies_suffix (part : Text) (n : Nat) (t : Text) : dropCopies part n t <:+ t := by
  obtain ⟨front, -, split⟩ := exists_copies_before part n t
  exact ⟨front, split.symm⟩

theorem stripEnd?_eq_some_iff : stripEnd? mark t = some u ↔ u ++ mark = t :=
  List.isSuffixOf?_eq_some_iff_append_eq

/-! ### Searching for a text without blanks at its ends -/

/-- A text that neither begins nor ends with a blank. -/
structure Tight (t : Text) : Prop where
  head : t.head?.any isBlank = false
  last : t.getLast?.any isBlank = false

theorem tight_iff : t.head?.any isBlank = false ∧ t.getLast?.any isBlank = false ↔ Tight t :=
  ⟨fun h => ⟨h.1, h.2⟩, fun h => ⟨h.head, h.last⟩⟩

instance : Decidable (Tight t) := decidable_of_iff _ tight_iff

theorem head_trimStart (t : Text) : (trimStart t).head?.any isBlank = false := by
  have stop := List.head?_dropWhile_not isBlank t
  rw [← trimStart] at stop
  cases hc : (trimStart t).head? with
  | none => rfl
  | some c => simpa [hc] using stop

theorem last_trimEnd (t : Text) : (trimEnd t).getLast?.any isBlank = false := by
  rw [trimEnd, dropEndWhile, List.getLast?_reverse]
  exact head_trimStart t.reverse

/-- What is left of the front of a text, trimmed at its end, is trimmed if the text does not begin with a blank. -/
theorem tight_trimEnd (pre : u <+: t) (head : t.head?.any isBlank = false) : Tight (trimEnd u) := by
  refine ⟨?_, last_trimEnd u⟩
  obtain ⟨b, -, split⟩ := exists_blanks_after u
  cases hu : trimEnd u with
  | nil => rfl
  | cons c r =>
    obtain ⟨rest, rfl⟩ := pre
    rw [split, hu] at head
    exact head

theorem tight_trim (t : Text) : Tight (trim t) := tight_trimEnd List.prefix_rfl (head_trimStart t)

namespace Tight

theorem append (tight : Tight t) (tight' : Tight u) : Tight (t ++ u) := by
  constructor
  · rw [List.head?_append]
    cases front : t.head? with
    | none => exact tight'.head
    | some c => simpa [front] using tight.head
  · rw [List.getLast?_append]
    cases back : u.getLast? with
    | none => exact tight.last
    | some c => simpa [back] using tight'.last

theorem trimStart_eq (tight : Tight t) : trimStart t = t := by
  cases t with
  | nil => rfl
  | cons c r =>
    have head : isBlank c = false := tight.head
    exact List.dropWhile_cons_of_neg (by simp [head])

theorem trimEnd_append (tight : Tight mark) (hm : mark ≠ []) : trimEnd (t ++ mark) = t ++ mark := by
  rcases List.eq_nil_or_concat mark with rfl | ⟨front, c, rfl⟩
  · exact absurd rfl hm
  · have last : isBlank c = false := by simpa using tight.last
    rw [trimEnd, dropEndWhile, List.concat_eq_append, ← List.append_assoc, List.reverse_concat,
      List.dropWhile_cons_of_neg (by simp [last]), ← List.reverse_concat, List.reverse_reverse]

theorem trimEnd_eq (tight : Tight t) : trimEnd t = t := by
  by_cases ht : t = []
  · rw [ht]
    rfl
  · exact tight.trimEnd_append (t := []) ht

theorem trim_eq (tight : Tight t) : trim t = t := by
  rw [trim, tight.trimStart_eq, tight.trimEnd_eq]

/-- A text that ends in a mark can only be trimmed at its start. -/
theorem trim_append (tight : Tight mark) (hm : mark ≠ []) : trim (t ++ mark) = trimStart t ++ mark := by
  have start : trimStart (t ++ mark) = trimStart t ++ mark := by
    by_cases ht : trimStart t = []
    · have blank : allBlank t = true := List.all_eq_true.mpr (List.dropWhile_eq_nil_iff.mp ht)
      rw [trimStart_append_left blank, tight.trimStart_eq, ht]
      rfl
    · exact trimStart_append_right ht
  rw [trim, start, tight.trimEnd_append hm]

theorem not_prefix_cons (tight : Tight mark) (hm : mark ≠ []) (hc : isBlank c = true) : ¬mark <+: c :: t := by
  cases mark with
  | nil => exact absurd rfl hm
  | cons d r =>
    intro pre
    obtain rfl := (List.cons_prefix_cons.mp pre).1
    have apart : isBlank d = false := tight.head
    rw [hc] at apart
    cases apart

theorem not_prefix_blanks (tight : Tight mark) (hm : mark ≠ []) (hb : allBlank b = true) : ¬mark <+: b := by
  cases b with
  | nil => exact fun pre => hm (List.prefix_nil.mp pre)
  | cons c r => exact tight.not_prefix_cons hm (allBlank_of_cons hb).1

theorem prefix_append_iff (tight : Tight mark) (hb : allBlank b = true) : mark <+: t ++ b ↔ mark <+: t := by
  refine ⟨?_, fun pre => pre.trans (List.prefix_append t b)⟩
  rintro ⟨rest, whole⟩
  obtain ⟨more, ht, -⟩ | ⟨more, hmark, hmore⟩ := List.append_eq_append_iff.mp whole
  · exact ⟨more, ht.symm⟩
  · -- the mark reaches into the blanks by `more`, which can only be empty
    cases hl : more.getLast? with
    | none =>
      rw [List.getLast?_eq_none_iff.mp hl, List.append_nil] at hmark
      exact hmark ▸ List.prefix_rfl
    | some c =>
      have blank : isBlank c = true :=
        isBlank_of_mem hb (hmore ▸ List.mem_append_left _ (List.mem_of_getLast? hl))
      have apart := tight.last
      rw [hmark, List.getLast?_append, hl] at apart
      rw [show isBlank c = false from apart] at blank
      cases blank

theorem isPrefixOf_append (tight : Tight mark) (hb : allBlank b = true) :
    mark.isPrefixOf (t ++ b) = mark.isPrefixOf t := by
  rw [Bool.eq_iff_iff, List.isPrefixOf_iff_prefix, List.isPrefixOf_iff_prefix, tight.prefix_append_iff hb]

theorem isPrefixOf?_append (tight : Tight mark) (hb : allBlank b = true) :
    mark.isPrefixOf? (t ++ b) = (mark.isPrefixOf? t).map (· ++ b) := by
  cases ht : mark.isPrefixOf? t with
  | some rest =>
    rw [List.isPrefixOf?_eq_some_iff_append_eq] at ht
    rw [Option.map_some, List.isPrefixOf?_eq_some_iff_append_eq, ← ht, List.append_assoc]
  | none =>
    rw [Option.map_none, isPrefixOf?_eq_none_iff, tight.prefix_append_iff hb]
    exact isPrefixOf?_eq_none_iff.mp ht

/-- Copies are taken away while there are any: both counts suffice for all, so they need not be the same. -/
theorem dropCopies_append (tight : Tight mark) (hm : mark ≠ []) (hb : allBlank b = true) {m n : Nat}
    (ht : t.length ≤ m) (hn : t.length ≤ n) : dropCopies mark n (t ++ b) = dropCopies mark m t ++ b := by
  induction n generalizing m t with
  | zero =>
    obtain rfl : t = [] := List.eq_nil_of_length_eq_zero (Nat.le_zero.mp hn)
    rw [List.nil_append, dropCopies_of_not_prefix (mt List.prefix_nil.mp hm)]
    rfl
  | succ n ih =>
    cases m with
    | zero =>
      obtain rfl : t = [] := List.eq_nil_of_length_eq_zero (Nat.le_zero.mp ht)
      exact dropCopies_of_not_prefix (tight.not_prefix_blanks hm hb) (n + 1)
    | succ m =>
      rw [dropCopies, dropCopies, tight.isPrefixOf?_append hb]
      cases hr : mark.isPrefixOf? t with
      | none => rfl
      | some rest =>
        have whole := congrArg List.length (List.isPrefixOf?_eq_some_iff_append_eq.mp hr)
        have some_mark := List.length_pos_iff.mpr hm
        rw [List.length_append] at whole
        exact ih (by omega) (by omega)

theorem trimStartOf_append (tight : Tight mark) (hm : mark ≠ []) (hb : allBlank b = true) :
    trimStartOf mark (t ++ b) = trimStartOf mark t ++ b :=
  tight.dropCopies_append hm hb (Nat.le_refl _) (by simp)

end Tight

end TodoLedger.Text
