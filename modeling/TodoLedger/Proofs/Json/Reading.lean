import TodoLedger.Json.Reader
import TodoLedger.Proofs.Text.Cut
import TodoLedger.Proofs.Text.Encoding

/-! Reading JSON texts: what the readers of values, items and members do at each token. -/

namespace TodoLedger.Json

variable {c d : Char} {s t r written : Text} {item value : Json} {fuel : Nat}

/-! ### Spaces -/

theorem skipSpaces_cons_of_space (hc : isSpace c = true) (t : Text) : skipSpaces (c :: t) = skipSpaces t := by
  rw [skipSpaces, List.dropWhile_cons_of_pos hc, skipSpaces]

theorem skipSpaces_cons (hc : isSpace c = false) (t : Text) : skipSpaces (c :: t) = c :: t := by
  rw [skipSpaces, List.dropWhile_cons_of_neg (by simp [hc])]

theorem skipSpaces_newLine (depth : Nat) (t : Text) : skipSpaces (newLine depth ++ t) = skipSpaces t := by
  have blanks : ∀ n, skipSpaces (List.replicate n ' ' ++ t) = skipSpaces t := by
    intro n
    induction n with
    | zero => rfl
    | succ n ih => rw [List.replicate_succ, List.cons_append, skipSpaces_cons_of_space (by decide), ih]
  rw [newLine, List.cons_append, skipSpaces_cons_of_space (by decide), blanks]

theorem readValue_congr (h : skipSpaces s = skipSpaces t) : readValue fuel s = readValue fuel t := by
  cases fuel with
  | zero => rfl
  | succ fuel => rw [readValue, readValue, h]

theorem readItems_congr (h : skipSpaces s = skipSpaces t) : readItems fuel s = readItems fuel t := by
  cases fuel with
  | zero => rfl
  | succ fuel => rw [readItems, readItems, readValue_congr h]

theorem readMembers_congr (h : skipSpaces s = skipSpaces t) : readMembers fuel s = readMembers fuel t := by
  cases fuel with
  | zero => rfl
  | succ fuel => rw [readMembers, readMembers, h]

/-! ### Strings -/

theorem readUnits_letter (hu : c ≠ 'u') (h : unescaped? c = some d) (r : Text) :
    readUnits ('\\' :: c :: r) = (readUnits r).map fun x => (d.toNat :: x.1, x.2) := by
  rw [readUnits]
  · rw [h]
    cases readUnits r <;> rfl
  · rintro _ _ _ _ _ rfl _
    exact hu rfl

theorem readUnits_unit {a b c d : Char} {u : Nat} (h : Text.digits? 16 [a, b, c, d] = some u) (r : Text) :
    readUnits ('\\' :: 'u' :: a :: b :: c :: d :: r) = (readUnits r).map fun x => (u :: x.1, x.2) := by
  rw [readUnits, h]
  cases readUnits r <;> rfl

theorem readUnits_cons (quote : c ≠ '"') (slash : c ≠ '\\') (control : 0x20 ≤ c.toNat) (r : Text) :
    readUnits (c :: r) = (readUnits r).map fun x => (Text.units c ++ x.1, x.2) := by
  have kept : (c == '\\' || decide (c.toNat < 0x20)) = false := by simp [slash, control]
  rw [readUnits]
  · rw [if_neg (by simp [kept])]
    cases readUnits r <;> rfl
  · exact quote
  · rintro _ _ _ _ _ rfl
    exact fun _ => slash rfl
  · rintro _ _ rfl
    exact fun _ => slash rfl

theorem digits?_escaped : ∀ n < 0x20,
    Text.digits? 16 ['0', '0', Nat.digitChar (n / 16), Nat.digitChar (n % 16)] = some n := by
  decide

/-- A character is escaped by a letter, by its number, or not at all. -/
theorem escapedChar_cases (c : Char) :
    (∃ l, escapedChar c = ['\\', l] ∧ unescaped? l = some c ∧ l ≠ 'u' ∧ Text.units c = [c.toNat]) ∨
      (c.toNat < 0x20 ∧
        escapedChar c = ['\\', 'u', '0', '0', Nat.digitChar (c.toNat / 16), Nat.digitChar (c.toNat % 16)]) ∨
      (c ≠ '"' ∧ c ≠ '\\' ∧ 0x20 ≤ c.toNat ∧ escapedChar c = [c]) := by
  by_cases named : c ∈ ['"', '\\', '\x08', '\x0c', '\n', '\r', '\t']
  · left
    simp only [List.mem_cons, List.not_mem_nil, or_false] at named
    rcases named with rfl | rfl | rfl | rfl | rfl | rfl | rfl <;> exact ⟨_, rfl, rfl, by decide, rfl⟩
  · right
    simp only [List.mem_cons, List.not_mem_nil, or_false, not_or] at named
    obtain ⟨quote, slash, h1, h2, h3, h4, h5⟩ := named
    rcases Nat.lt_or_ge c.toNat 0x20 with control | control
    · refine Or.inl ⟨control, ?_⟩
      simp [escapedChar, quote, slash, h1, h2, h3, h4, h5, control]
    · refine Or.inr ⟨quote, slash, control, ?_⟩
      simp [escapedChar, quote, slash, h1, h2, h3, h4, h5, Nat.not_lt_of_le control]

theorem readUnits_escapedChar (c : Char) (r : Text) :
    readUnits (escapedChar c ++ r) = (readUnits r).map fun x => (Text.units c ++ x.1, x.2) := by
  rcases escapedChar_cases c with ⟨l, he, hl, hu, hc⟩ | ⟨control, he⟩ | ⟨quote, slash, control, he⟩
  · rw [he, hc]
    exact readUnits_letter hu hl r
  · have small : Text.units c = [c.toNat] := if_pos (Nat.lt_trans control (by decide))
    rw [he, small]
    exact readUnits_unit (digits?_escaped _ control) r
  · rw [he]
    exact readUnits_cons quote slash control r

theorem readUnits_string (t r : Text) :
    readUnits (t.flatMap escapedChar ++ '"' :: r) = some (t.flatMap Text.units, r) := by
  induction t with
  | nil => rfl
  | cons c t ih =>
    rw [List.flatMap_cons, List.append_assoc, readUnits_escapedChar, ih]
    rfl

/-! ### Words and numbers -/

/-- A text that does not go on with a number. -/
def Ends (r : Text) : Prop := ∀ c ∈ r.head?, isNumeric c = false

theorem ne_of_isNumeric (hc : isNumeric c = true) :
    isSpace c = false ∧ c ∉ ['"', '[', ']', '\x7b', '\x7d', 'n', 't', 'f'] := by
  constructor
  · by_contra space
    rw [Bool.not_eq_false] at space
    simp only [isSpace, Bool.or_eq_true, beq_iff_eq] at space
    rcases space with ((rfl | rfl) | rfl) | rfl <;> cases hc
  · simp only [List.mem_cons, List.not_mem_nil, or_false]
    rintro (rfl | rfl | rfl | rfl | rfl | rfl | rfl | rfl) <;> cases hc

theorem isPrefixOf?_cons_of_ne {x : Char} (h : c ≠ x) (w t : Text) : (x :: w).isPrefixOf? (c :: t) = none := by
  have : (x == c) = false := by simp [Ne.symm h]
  simp [List.isPrefixOf?, this]

theorem readAtom_number (hw : isNumber written = true) (numeric : written.all isNumeric = true) (hr : Ends r) :
    readAtom (written ++ r) = some (number written, r) := by
  cases written with
  | nil => cases hw
  | cons c w =>
    obtain ⟨hc, hw'⟩ : isNumeric c = true ∧ w.all isNumeric = true := by simpa using numeric
    obtain ⟨-, other⟩ := ne_of_isNumeric hc
    simp only [List.mem_cons, List.not_mem_nil, or_false, not_or] at other
    have taken : ((c :: w) ++ r).takeWhile isNumeric = c :: w := by
      rw [List.takeWhile_append_of_pos (by simpa using numeric)]
      cases r with
      | nil => simp
      | cons d r => rw [List.takeWhile_cons_of_neg (by simp [hr d rfl]), List.append_nil]
    have left : ((c :: w) ++ r).dropWhile isNumeric = r := by
      rw [List.dropWhile_append_of_pos (by simpa using numeric)]
      cases r with
      | nil => rfl
      | cons d r => rw [List.dropWhile_cons_of_neg (by simp [hr d rfl])]
    have no_word : ∀ x ∈ ['n', 't', 'f'], ∀ u : Text, (x :: u).isPrefixOf? ((c :: w) ++ r) = none := by
      intro x hx u
      rw [List.cons_append]
      refine isPrefixOf?_cons_of_ne ?_ u _
      rintro rfl
      simp_all
    simp only [readAtom, taken, left, hw, if_true]
    have n1 : ("null".toList).isPrefixOf? ((c :: w) ++ r) = none := no_word 'n' (by simp) _
    have n2 : ("true".toList).isPrefixOf? ((c :: w) ++ r) = none := no_word 't' (by simp) _
    have n3 : ("false".toList).isPrefixOf? ((c :: w) ++ r) = none := no_word 'f' (by simp) _
    rw [n1, n2, n3]
    rfl

/-- Digits are a number unless a zero stands before others. -/
theorem isNumber_of_digits (some_digit : t ≠ []) (digits : ∀ c ∈ t, c.isDigit = true)
    (leading : t.length = 1 ∨ t.head? ≠ some '0') : isNumber t = true := by
  have not_mem : ∀ {c : Char}, c.isDigit = false → c ∉ t := by
    intro c other mem
    rw [digits c mem] at other
    cases other
  have positive : unsigned ['-'] t = t := by
    cases t with
    | nil => rfl
    | cons c t =>
      refine if_neg ?_
      simp only [List.contains_cons, List.contains_nil, Bool.or_false, beq_iff_eq]
      rintro rfl
      exact not_mem (by decide) List.mem_cons_self
  have same : Text.substitute 'E' ['e'] t = t := by
    refine (List.flatMap_congr fun c mem => if_neg ?_).trans (List.flatMap_singleton' t)
    rintro rfl
    exact not_mem (by decide) mem
  have parts : exponentParts t = (t, ['0']) := by
    rw [exponentParts, same, Text.cut?_eq_none_iff.mpr (not_mem (by decide)), Option.getD_none]
  have no_point : Text.cut? '.' t = none := Text.cut?_eq_none_iff.mpr (not_mem (by decide))
  have whole : isDigits t = true := by simpa [isDigits, some_digit] using digits
  rw [isNumber, positive, parts]
  simp only [isDecimal, no_point, Option.getD_none, whole]
  simpa [isDigits, unsigned] using leading

/-! ### One step of reading -/

section Steps
variable {u : Text} {name : List Nat} {a b : Text}

theorem readValue_string (h : skipSpaces t = '"' :: r) :
    readValue (fuel + 1) t = (readUnits r).map fun x => (ofUnits x.1, x.2) := by
  rw [readValue, h]
  rfl

theorem readValue_no_items (h : skipSpaces t = '[' :: r) (hr : skipSpaces r = ']' :: u) :
    readValue (fuel + 1) t = some (array [], u) := by
  rw [readValue, h]
  simp only [hr]

theorem readValue_items (h : skipSpaces t = '[' :: r) (hr : skipSpaces r = c :: u) (hc : c ≠ ']') :
    readValue (fuel + 1) t = (readItems fuel (c :: u)).map fun x => (array x.1, x.2) := by
  rw [readValue, h]
  simp only [hr]
  split
  · rename_i heq
    exact absurd (List.cons.inj heq).1 hc
  · rfl

theorem readValue_no_members (h : skipSpaces t = '\x7b' :: r) (hr : skipSpaces r = '\x7d' :: u) :
    readValue (fuel + 1) t = some (object [], u) := by
  rw [readValue, h]
  simp only [hr]

theorem readValue_members (h : skipSpaces t = '\x7b' :: r) (hr : skipSpaces r = c :: u) (hc : c ≠ '\x7d') :
    readValue (fuel + 1) t = (readMembers fuel (c :: u)).map fun x => (ofMembers x.1, x.2) := by
  rw [readValue, h]
  simp only [hr]
  split
  · rename_i heq
    exact absurd (List.cons.inj heq).1 hc
  · rfl

theorem readValue_atom (h : skipSpaces t = c :: r) (hc : c ∉ ['"', '[', '\x7b']) :
    readValue (fuel + 1) t = readAtom (c :: r) := by
  simp only [List.mem_cons, List.not_mem_nil, or_false, not_or] at hc
  obtain ⟨quote, bracket, brace⟩ := hc
  rw [readValue, h]
  split
  · rename_i heq
    exact absurd (List.cons.inj heq).1 quote
  · rename_i heq
    exact absurd (List.cons.inj heq).1 bracket
  · rename_i heq
    exact absurd (List.cons.inj heq).1 brace
  · rfl

theorem readItems_last (h : readValue fuel t = some (item, r)) (hr : skipSpaces r = ']' :: u) :
    readItems (fuel + 1) t = some ([item], u) := by
  rw [readItems, h]
  simp only [Option.bind_eq_bind, Option.bind_some, hr]

theorem readItems_more (h : readValue fuel t = some (item, r)) (hr : skipSpaces r = ',' :: u) :
    readItems (fuel + 1) t = (readItems fuel u).map fun x => (item :: x.1, x.2) := by
  rw [readItems, h]
  simp only [Option.bind_eq_bind, Option.bind_some, hr]
  cases readItems fuel u <;> rfl

theorem readMembers_last (h : skipSpaces t = '"' :: a)
    (ha : readUnits a = some (name, b)) (hb : skipSpaces b = ':' :: s) (hs : readValue fuel s = some (value, r))
    (hr : skipSpaces r = '\x7d' :: u) : readMembers (fuel + 1) t = some ([(name, value)], u) := by
  rw [readMembers, h]
  simp only [ha, hb, hs, hr, Option.bind_eq_bind, Option.bind_some]

theorem readMembers_more (h : skipSpaces t = '"' :: a)
    (ha : readUnits a = some (name, b)) (hb : skipSpaces b = ':' :: s) (hs : readValue fuel s = some (value, r))
    (hr : skipSpaces r = ',' :: u) :
    readMembers (fuel + 1) t = (readMembers fuel u).map fun x => ((name, value) :: x.1, x.2) := by
  rw [readMembers, h]
  simp only [ha, hb, hs, hr, Option.bind_eq_bind, Option.bind_some]
  cases readMembers fuel u <;> rfl

end Steps

end TodoLedger.Json
