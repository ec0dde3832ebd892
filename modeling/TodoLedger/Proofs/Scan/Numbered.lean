import TodoLedger.Proofs.Scan.Hits
import TodoLedger.Proofs.Text.Lines
import TodoLedger.Proofs.Text.Number

/-! The numbered context of a hit. Its rows are the lines of a text around the line of the hit, each with the number that
it has in the text. They are read back one by one, and the part before the line is as wide in one as in the other, however
many digits the numbers have. -/

namespace TodoLedger

/-! ### Rows -/

/-- A row of a numbered context, taken apart. -/
structure Row where
  /-- What stands before the first tab. -/
  gutter : Text
  starred : Bool
  number : Nat
  line : Text
deriving DecidableEq, Repr

namespace Row

/-- Takes a row apart. Before the first tab stand, behind blanks and a star or none, the digits of a number and a colon. -/
def read? (row : Text) : Option Row := do
  let (gutter, line) ← Text.cut? '\t' row
  let shown := gutter.dropWhile (· == ' ')
  let starred := shown.head? == some '*'
  let (digits, rest) ← Text.cut? ':' ((if starred then shown.drop 1 else shown).dropWhile (· == ' '))
  if !digits.isEmpty && digits.all Char.isDigit && rest.isEmpty then
    some ⟨gutter, starred, Nat.ofDigitChars 10 digits 0, line⟩
  else none

/-- A row shows the line at a place of the context of a hit, with the number that it has among the lines of a text. It is
starred if it is the line of the hit. -/
structure Shows (lines : List Text) (h : Hit) (place : Nat) (r : Row) : Prop where
  line : h.context[place]? = some r.line
  number : r.number + h.trigger = h.line + place
  numbered : ∃ i, r.number = i + 1 ∧ lines[i]? = some r.line
  starred : r.starred = true ↔ r.number = h.line

end Row

namespace Hit

variable {h : Hit} {width place : Nat} {line : Text}

/-- The part of a row before its tab. -/
def gutter (h : Hit) (width place : Nat) : Text :=
  Text.padLeft width ((if place = h.trigger then ['*', ' '] else [' ', ' ']) ++ Text.ofNat (h.firstLine + place) ++ [':'])

theorem numberedLine_eq (h : Hit) (width place : Nat) (line : Text) :
    h.numberedLine width place line = h.gutter width place ++ '\t' :: line ++ ['\n'] := by
  simp [numberedLine, gutter]

theorem length_gutter (wide : (Text.ofNat (h.firstLine + place)).length + 3 ≤ width) :
    (h.gutter width place).length = width := by
  have star : (if place = h.trigger then ['*', ' '] else [' ', ' ']).length = 2 := by split <;> rfl
  simp only [gutter, Text.padLeft, List.length_append, List.length_replicate, star, List.length_singleton]
  omega

/-- A gutter is blanks, a star or none, the number and a colon. -/
theorem exists_gutter_eq (h : Hit) (width place : Nat) : ∃ n, h.gutter width place =
    List.replicate n ' ' ++ ((if place = h.trigger then ['*', ' '] else []) ++ Text.ofNat (h.firstLine + place) ++ [':']) := by
  have padded : ∀ t : Text, ∃ n, Text.padLeft width t = List.replicate n ' ' ++ t := fun t => ⟨_, rfl⟩
  by_cases here : place = h.trigger
  · obtain ⟨n, pad⟩ := padded (['*', ' '] ++ Text.ofNat (h.firstLine + place) ++ [':'])
    exact ⟨n, by rw [gutter, if_pos here, if_pos here, pad]⟩
  · obtain ⟨n, pad⟩ := padded ([' ', ' '] ++ Text.ofNat (h.firstLine + place) ++ [':'])
    refine ⟨n + 2, ?_⟩
    rw [gutter, if_neg here, if_neg here, pad, List.replicate_add, List.append_assoc (List.replicate n ' ')]
    rfl

/-- Digits are neither blanks nor marks of a row. -/
theorem ne_of_mem_ofNat {c : Char} {n : Nat} (mem : c ∈ Text.ofNat n) :
    c ≠ ' ' ∧ c ≠ '*' ∧ c ≠ ':' ∧ c ≠ '\t' ∧ c ≠ '\n' ∧ c ≠ '\x60' := by
  have digit := Text.isDigit_of_mem_ofNat mem
  refine ⟨?_, ?_, ?_, ?_, ?_, ?_⟩ <;>
  · rintro rfl
    revert digit
    decide

theorem ne_of_mem_gutter {c : Char} (mem : c ∈ h.gutter width place) : c ≠ '\t' ∧ c ≠ '\n' := by
  obtain ⟨n, split⟩ := h.exists_gutter_eq width place
  rw [split] at mem
  simp only [List.mem_append, List.mem_singleton] at mem
  obtain blank | (mark | digit) | rfl := mem
  · rw [List.eq_of_mem_replicate blank]
    decide
  · split at mark
    · obtain rfl | rfl : c = '*' ∨ c = ' ' := by simpa using mark
      · decide
      · decide
    · cases mark
  · obtain ⟨-, -, -, tab, feed, -⟩ := ne_of_mem_ofNat digit
    exact ⟨tab, feed⟩
  · decide

/-- A number begins with a digit, so with no blank and no mark. -/
theorem exists_head_ofNat (n : Nat) : ∃ c, c ∈ Text.ofNat n ∧ ∀ rest, (Text.ofNat n ++ rest).head? = some c ∧
    (Text.ofNat n ++ rest).dropWhile (· == ' ') = Text.ofNat n ++ rest := by
  obtain ⟨c, r, digits⟩ := List.exists_cons_of_ne_nil (Nat.toDigits_ne_nil (n := n) (b := 10))
  have mem : c ∈ Text.ofNat n := by
    rw [Text.ofNat, digits]
    exact List.mem_cons_self
  refine ⟨c, mem, fun rest => ?_⟩
  rw [Text.ofNat, digits]
  exact ⟨rfl, List.dropWhile_cons_of_neg (by simpa using (ne_of_mem_ofNat mem).1)⟩

/-- Behind its blanks a gutter begins with its star or with its number. -/
theorem dropWhile_gutter (h : Hit) (width place : Nat) (rest : Text) :
    (h.gutter width place ++ rest).dropWhile (· == ' ') =
      (if place = h.trigger then ['*', ' '] else []) ++ (Text.ofNat (h.firstLine + place) ++ (':' :: rest)) := by
  obtain ⟨n, split⟩ := h.exists_gutter_eq width place
  have blank : ∀ c ∈ List.replicate n ' ', (c == ' ') = true := fun c mem => by
    rw [List.eq_of_mem_replicate mem]
    rfl
  rw [split, List.append_assoc, List.dropWhile_append_of_pos blank, List.append_assoc, List.append_assoc]
  split
  · rfl
  · obtain ⟨_, -, digits⟩ := exists_head_ofNat (h.firstLine + place)
    exact (digits _).2

/-- A row is read back as the line with its number, whatever the line holds. -/
theorem read?_row (h : Hit) (width place : Nat) (line : Text) :
    Row.read? (h.gutter width place ++ '\t' :: line) =
      some ⟨h.gutter width place, decide (place = h.trigger), h.firstLine + place, line⟩ := by
  let digits := Text.ofNat (h.firstLine + place)
  have tab : Text.cut? '\t' (h.gutter width place ++ '\t' :: line) = some (h.gutter width place, line) :=
    Text.cut?_eq_some_iff.mpr ⟨rfl, fun mem => (ne_of_mem_gutter mem).1 rfl⟩
  have colon : Text.cut? ':' (digits ++ [':']) = some (digits, []) :=
    Text.cut?_eq_some_iff.mpr ⟨rfl, fun mem => (ne_of_mem_ofNat mem).2.2.1 rfl⟩
  have number : Nat.ofDigitChars 10 digits 0 = h.firstLine + place := Nat.ofDigitChars_ten_toDigits
  have all : (!digits.isEmpty && digits.all Char.isDigit && List.isEmpty ([] : Text)) = true := by
    simp only [Bool.and_eq_true, List.all_eq_true]
    exact ⟨⟨by simp [digits, Text.ofNat], fun c mem => Text.isDigit_of_mem_ofNat mem⟩, rfl⟩
  obtain ⟨c, mem, head⟩ := exists_head_ofNat (h.firstLine + place)
  obtain ⟨first, unblank⟩ := head [':']
  have shown := h.dropWhile_gutter width place []
  rw [List.append_nil] at shown
  simp only [Row.read?, tab, Option.bind_eq_bind, Option.bind_some, shown]
  by_cases here : place = h.trigger
  · rw [if_pos here]
    change (Text.cut? ':' ((digits ++ [':']).dropWhile (· == ' '))).bind _ = _
    rw [unblank, colon, Option.bind_some]
    dsimp only
    rw [if_pos all, number, decide_eq_true here]
    rfl
  · have plain : ((digits ++ [':']).head? == some '*') = false := by
      rw [first]
      simpa using (ne_of_mem_ofNat mem).2.1
    rw [if_neg here, List.nil_append, plain, if_neg Bool.false_ne_true, unblank, colon, Option.bind_some]
    dsimp only
    rw [if_pos all, number, decide_eq_false here]

/-! ### The numbered context -/

/-- The width of the gutters: that of the last number, with a star, a blank and a colon. -/
def gutterWidth (h : Hit) : Nat := (Text.ofNat (h.firstLine + h.context.length - 1)).length + 3

/-- The rows of the context. -/
def rows (h : Hit) : List Text :=
  h.context.zipIdx.map fun (line, place) => h.gutter h.gutterWidth place ++ '\t' :: line

theorem getElem?_rows {row : Text} : h.rows[place]? = some row ↔
    ∃ line, h.context[place]? = some line ∧ row = h.gutter h.gutterWidth place ++ '\t' :: line := by
  rw [rows, List.getElem?_map, List.getElem?_zipIdx, Nat.zero_add]
  cases h.context[place]? with
  | none => simp
  | some line => simp [eq_comm]

theorem numberedContext_eq (h : Hit) : h.numberedContext =
    (("\x60\x60\x60".toList ++ h.extension) :: h.rows).flatMap (· ++ ['\n']) ++ "\x60\x60\x60".toList := by
  have shown : (h.context.zipIdx.flatMap fun (line, place) => h.numberedLine h.gutterWidth place line) =
      h.rows.flatMap (· ++ ['\n']) := by
    rw [rows, List.flatMap_map]
    exact List.flatMap_congr fun (line, place) _ => h.numberedLine_eq h.gutterWidth place line
  rw [List.flatMap_cons, ← shown]
  rfl

/-- No gutter is wider than that of the last number. -/
theorem length_gutter_of_getElem? (hl : h.context[place]? = some line) :
    (h.gutter h.gutterWidth place).length = h.gutterWidth := by
  obtain ⟨inside, -⟩ := List.getElem?_eq_some_iff.mp hl
  refine length_gutter (Nat.add_le_add_right (Text.length_ofNat_le ?_) 3)
  omega

theorem head_row_ne (h : Hit) (width place : Nat) (rest : Text) :
    ((h.gutter width place ++ rest).dropWhile (· == ' ')).head? ≠ some '\x60' := by
  rw [dropWhile_gutter]
  split
  · exact fun same => absurd (Option.some.inj same) (by decide)
  · obtain ⟨c, mem, digits⟩ := exists_head_ofNat (h.firstLine + place)
    rw [List.nil_append, (digits _).1]
    exact fun same => (ne_of_mem_ofNat mem).2.2.2.2.2 (Option.some.inj same)

end Hit

namespace Scanner

variable {s : Scanner} {file extension text : Text} {h : Hit}

/-- The context of a hit begins behind some of the lines, and the line of the hit stands in it at the trigger. -/
theorem exists_context_of_mem_hits (mem : h ∈ s.hits file extension text) :
    ∃ before, h.line = before + h.trigger + 1 ∧ h.firstLine = before + 1 ∧
      ∀ (place : Nat) line, h.context[place]? = some line → (Text.lines text)[before + place]? = some line := by
  obtain ⟨i, line, d, hl, -, -, rfl⟩ := mem_hits_iff.mp mem
  obtain ⟨trigger, context⟩ := context_ofDirective file d s.contextLimit hl
  set h := Hit.ofDirective file i d (Window.around s.contextLimit ((Text.lines text).take i).reverse line
    ((Text.lines text).drop (i + 1)))
  have number : h.line = i + 1 := rfl
  refine ⟨i - h.trigger, by omega, ?_, fun place line inside => ?_⟩
  · rw [Hit.firstLine]
    omega
  · rw [context] at inside
    rw [List.getElem?_take, List.getElem?_drop] at inside
    split at inside
    · exact inside
    · cases inside

/-- The numbered context of a hit is a fence with one row for each line of the context in it, as long as the extension of
the file has no line feed. A row is read back as the line and its number in the text, and only that of the hit is starred;
all gutters have one width, no row could be taken for the end of the fence, and no difference is cut off at zero. -/
theorem numberedContext_of_hits (s : Scanner) (file extension text : Text) :
    ∀ h ∈ s.hits file extension text, '\n' ∉ h.extension →
      ∃ (rows : List Text) (width : Nat),
        h.numberedContext.splitOn '\n' =
          ("\x60\x60\x60".toList ++ h.extension) :: rows ++ ["\x60\x60\x60".toList] ∧
        rows.length = h.context.length ∧
        (∀ (place : Nat) row, rows[place]? = some row → (row.dropWhile (· == ' ')).head? ≠ some '\x60' ∧
          ∃ r, Row.read? row = some r ∧ r.gutter.length = width ∧ r.Shows (Text.lines text) h place) ∧
        (∃! place : Nat, ∃ row r, rows[place]? = some row ∧ Row.read? row = some r ∧ r.starred = true) ∧
        h.trigger ≤ h.line ∧ 1 ≤ h.line - h.trigger ∧ 1 ≤ h.context.length := by
  intro h mem whole
  obtain ⟨before, number, first, lines⟩ := exists_context_of_mem_hits mem
  have reads : ∀ {place row}, h.rows[place]? = some row →
      ∃ line, h.context[place]? = some line ∧ row = h.gutter h.gutterWidth place ++ '\t' :: line ∧
        Row.read? row = some ⟨h.gutter h.gutterWidth place, decide (place = h.trigger), before + 1 + place, line⟩ := by
    intro place row inside
    obtain ⟨line, hl, rfl⟩ := Hit.getElem?_rows.mp inside
    exact ⟨line, hl, rfl, first ▸ Hit.read?_row h h.gutterWidth place line⟩
  refine ⟨h.rows, h.gutterWidth, ?_, by rw [Hit.rows, List.length_map, List.length_zipIdx], ?_, ?_, ?_⟩
  · rw [h.numberedContext_eq, Text.splitOn_ended _ (by decide)]
    refine List.forall_mem_cons.mpr ⟨?_, fun row inside => ?_⟩
    · exact fun feed => (List.mem_append.mp feed).elim (by decide) whole
    · obtain ⟨place, inside⟩ := List.getElem?_of_mem inside
      obtain ⟨line, hl, rfl, -⟩ := reads inside
      intro feed
      obtain gutter | tab | inner : '\n' ∈ h.gutter h.gutterWidth place ∨ '\n' = '\t' ∨ '\n' ∈ line := by simpa using feed
      · exact (Hit.ne_of_mem_gutter gutter).2 rfl
      · exact absurd tab (by decide)
      · exact Text.newline_notMem_of_mem_lines (List.mem_of_getElem? (lines place line hl)) inner
  · intro place row inside
    obtain ⟨line, hl, rfl, read⟩ := reads inside
    refine ⟨h.head_row_ne _ _ _, _, read, Hit.length_gutter_of_getElem? hl, hl, ?_, ⟨before + place, ?_, lines place line hl⟩, ?_⟩
    · dsimp only
      omega
    · dsimp only
      omega
    · rw [decide_eq_true_iff]
      dsimp only
      omega
  · refine ⟨h.trigger, ?_, ?_⟩
    · have there := List.getElem?_eq_getElem h.trigger_lt
      exact ⟨_, _, Hit.getElem?_rows.mpr ⟨_, there, rfl⟩, Hit.read?_row h h.gutterWidth h.trigger _, decide_eq_true rfl⟩
    · rintro place ⟨row, r, inside, read, starred⟩
      obtain ⟨line, -, -, read'⟩ := reads inside
      obtain rfl := Option.some.inj (read.symm.trans read')
      exact of_decide_eq_true starred
  · have inside := h.trigger_lt
    omega

/-- A hit in the ninth line whose context reaches to the tenth, the last, with a tab and backticks in it. -/
theorem numberedContext_of_ninth_line :
    let s := Scanner.new 8 "# todoon".toList
    let text := "\n\n\n\n\n\n\nx = 1\r\n# TODO one\n\t\x60\x60\x60y".toList
    ∃ h ∈ s.hits "a.py".toList "py".toList text, '\n' ∉ h.extension ∧
      h.numberedContext =
        "\x60\x60\x60py\n   8:\tx = 1\n * 9:\t# TODO one\n  10:\t\t\x60\x60\x60y\n\x60\x60\x60".toList ∧
      ∃ (rows : List Text) (width : Nat), rows.length = 3 ∧ ∀ (place : Nat) row, rows[place]? = some row →
        ∃ r, Row.read? row = some r ∧ r.gutter.length = width ∧ r.Shows (Text.lines text) h place := by
  intro s text
  have shown : (s.hits "a.py".toList "py".toList text).map (fun h => (h.numberedContext, h.context.length)) =
      [("\x60\x60\x60py\n   8:\tx = 1\n * 9:\t# TODO one\n  10:\t\t\x60\x60\x60y\n\x60\x60\x60".toList, 3)] := by
    decide +kernel
  have whole : ∀ h ∈ s.hits "a.py".toList "py".toList text, '\n' ∉ h.extension := by decide +kernel
  obtain ⟨h, mem, same⟩ := List.mem_map.mp (shown ▸ List.mem_singleton_self _)
  obtain ⟨context, length⟩ := Prod.mk.inj same
  obtain ⟨rows, width, -, count, all, -, -⟩ := numberedContext_of_hits s "a.py".toList "py".toList text h mem (whole h mem)
  exact ⟨h, mem, whole h mem, context, rows, width, count.trans length, fun place row inside => (all place row inside).2⟩

end Scanner
end TodoLedger
