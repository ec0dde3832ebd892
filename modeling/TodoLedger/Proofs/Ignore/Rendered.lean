import TodoLedger.Ignore.Entries
import TodoLedger.Proofs.Text.Lines
import TodoLedger.Proofs.Text.Trim

/-! Entries that are written and read back. The entries of a text are those of the pieces between its line feeds. What
is written begins with a line feed, so it goes on with no line that was there before. -/

namespace TodoLedger.Ignore

variable {l e : Text} {es : List Text}

/-! ### Lines -/

/-- Carriage returns at the end of a line are blanks like others. -/
theorem entry?_eq (l : Text) :
    entry? l = if Text.allBlank l || l.head? == some '#' then none else some (Text.trim l) := by
  obtain ⟨back, returns, split⟩ := Text.exists_dropped_after (· == '\r') l
  have blank : Text.allBlank back = true := List.all_eq_true.mpr fun c mem => by
    rw [beq_iff_eq.mp (List.all_eq_true.mp returns c mem)]
    rfl
  rw [ entry?]
  generalize Text.dropEndWhile (· == '\r') l = front at split
  subst split
  have blanks : Text.allBlank (front ++ back) = Text.allBlank front := by
    rw [Text.allBlank, List.all_append, ← Text.allBlank, ← Text.allBlank, blank, Bool.and_true]
  rw [blanks, Text.trim_append_right blank]
  cases front with
  | nil => rfl
  | cons c front => rfl

theorem entry?_of_comment (comment : l.head? = some '#') : entry? l = none := by
  rw [ entry?_eq, comment]
  simp

/-- Behind a line without an entry stands an entry only if the line is blank. -/
theorem trim_of_entry?_append {u : Text} (void : entry? l = none) (read : entry? (l ++ u) = some e) :
    Text.trim u = e := by
  have blank : Text.allBlank l = true := by
    rw [ entry?_eq] at void
    split at void
    · rename_i why
      refine (Bool.or_eq_true_iff.mp why).resolve_right fun comment => ?_
      have head : (l ++ u).head? = some '#' := by rw [List.head?_append, beq_iff_eq.mp comment, Option.some_or]
      rw [ entry?_of_comment head] at read
      cases read
    · cases void
  rw [ entry?_eq] at read
  split at read
  · cases read
  · rw [Text.trim_append_left blank] at read
    exact Option.some.inj read

theorem entry?_append_return (l : Text) : entry? (l ++ ['\r']) = entry? l := by
  have stripped : Text.dropEndWhile (· == '\r') (l ++ ['\r']) = Text.dropEndWhile (· == '\r') l := by
    rw [Text.dropEndWhile, List.reverse_concat, List.dropWhile_cons_of_pos rfl, Text.dropEndWhile]
  rw [ entry?, entry?, stripped]

theorem parseEntries_append (whole : '\n' ∉ l) (t : Text) :
    parseEntries (l ++ '\n' :: t) = ( entry? l).toList ++ parseEntries t := by
  obtain ⟨line, lines, ends⟩ := Text.exists_lines_append whole t
  have same : entry? line = entry? l := by
    rcases ends with rfl | rfl
    · rfl
    · exact ( entry?_append_return line).symm
  rw [parseEntries, lines, List.filterMap_cons, same]
  cases entry? l <;> rfl

theorem parseEntries_of_whole (whole : '\n' ∉ l) : parseEntries l = ( entry? l).toList := by
  by_cases some : l = []
  · rw [some]
    rfl
  · rw [parseEntries, Text.lines_of_whole whole some, List.filterMap_cons, List.filterMap_nil]
    cases entry? l <;> rfl

/-- The entries of a text are those of the pieces between its line feeds. -/
theorem parseEntries_eq (t : Text) : parseEntries t = (t.splitOn '\n').filterMap entry? := by
  have toList : ∀ l, [l].filterMap entry? = ( entry? l).toList := fun l => by
    rw [List.filterMap_cons, List.filterMap_nil]
    cases entry? l <;> rfl
  induction t using Text.pieces_induction with
  | last l whole => rw [parseEntries_of_whole whole, List.splitOn_eq_singleton whole, toList]
  | piece l r whole ih =>
    rw [parseEntries_append whole, ih, List.splitOn_append_cons_self_of_not_mem whole, ← toList,
      ← List.filterMap_append, List.singleton_append]

/-- A line feed begins a new line, whatever stood before it. -/
theorem parseEntries_append_newline (t u : Text) :
    parseEntries (t ++ '\n' :: u) = parseEntries t ++ parseEntries ('\n' :: u) := by
  rw [parseEntries_eq, parseEntries_eq, parseEntries_eq, List.splitOn_append_cons_self, List.filterMap_append,
    List.splitOn_cons_eq_if_modifyHead, if_pos (beq_self_eq_true _)]
  rfl

/-- A trimmed text is a line as it stands. -/
theorem entry?_of_tight (tight : Text.Tight e) (some_text : e ≠ []) :
    entry? e = if e.head? = some '#' then none else some e := by
  have text : Text.allBlank e = false := by
    cases e with
    | nil => exact absurd rfl some_text
    | cons c e =>
      have head : Text.isBlank c = false := tight.head
      rw [Text.allBlank, List.all_cons, head, Bool.false_and]
  rw [ entry?_eq, text, tight.trim_eq]
  simp

/-- What is added to the last line of a text counts for nothing but that line. -/
theorem exists_last_line (t : Text) :
    ∃ before l, ∀ u, '\n' ∉ u → parseEntries (t ++ u) = before ++ ( entry? (l ++ u)).toList := by
  induction t using Text.pieces_induction with
  | last l whole =>
    exact ⟨[], l, fun u more => parseEntries_of_whole fun mem => (List.mem_append.mp mem).elim whole more⟩
  | piece l r whole ih =>
    obtain ⟨before, last, entries⟩ := ih
    refine ⟨( entry? l).toList ++ before, last, fun u more => ?_⟩
    rw [List.append_assoc, List.cons_append, parseEntries_append whole, entries u more, List.append_assoc]

/-! ### What is written -/

/-- The entries that are written. -/
def written (es : List Text) : List Text := (es.map Text.trim).filter fun e => e ≠ []

theorem mem_written : e ∈ written es ↔ (∃ e' ∈ es, Text.trim e' = e) ∧ e ≠ [] := by
  simp [written, List.mem_filter]

/-- What is written is trimmed already. -/
theorem trim_of_mem_written (mem : e ∈ written es) : Text.trim e = e ∧ Text.trim e ≠ [] := by
  obtain ⟨⟨e', -, rfl⟩, some_text⟩ := mem_written.mp mem
  have trimmed := (Text.tight_trim e').trim_eq
  exact ⟨trimmed, trimmed.symm ▸ some_text⟩

theorem written_cons_of_blank (blank : Text.trim e = []) (es : List Text) : written (e :: es) = written es := by
  simp [written, blank]

theorem written_cons_of_some (some_text : Text.trim e ≠ []) (es : List Text) :
    written (e :: es) = Text.trim e :: written es := by
  simp [written, some_text]

theorem renderAfter_cons_of_blank (blank : Text.trim e = []) (previous : Option Char) (es : List Text) :
    renderAfter previous (e :: es) = renderAfter previous es := by
  simp [renderAfter, blank]

/-- An entry is written on a line of its own, after an empty line or not. -/
theorem renderAfter_cons_of_some (some_text : Text.trim e ≠ []) (previous : Option Char) (es : List Text) :
    ∃ c, (Text.trim e).head? = some c ∧ renderAfter previous (e :: es) =
      (if previous = some c then [] else ['\n']) ++ (Text.trim e ++ '\n' :: renderAfter (some c) es) := by
  cases trimmed : Text.trim e with
  | nil => exact absurd trimmed some_text
  | cons c r => exact ⟨c, rfl, by simp [renderAfter, trimmed]⟩

/-- Each entry that is written holds what its own lines hold. -/
theorem parseEntries_renderAfter_eq_flatMap (previous : Option Char) (es : List Text) :
    parseEntries (renderAfter previous es) = (written es).flatMap parseEntries := by
  induction es generalizing previous with
  | nil => rfl
  | cons e es ih =>
    by_cases blank : Text.trim e = []
    · rw [renderAfter_cons_of_blank blank, written_cons_of_blank blank, ih]
    · obtain ⟨c, -, rendered⟩ := renderAfter_cons_of_some blank previous es
      have fed : ∀ r, parseEntries ('\n' :: r) = parseEntries r := parseEntries_append (l := []) List.not_mem_nil
      have spaced : ∀ r, parseEntries ((if previous = some c then [] else ['\n']) ++ r) = parseEntries r := by
        intro r
        split
        · rfl
        · exact fed r
      rw [rendered, spaced, parseEntries_append_newline, fed, ih, written_cons_of_some blank, List.flatMap_cons]

theorem parseEntries_renderAfter (whole : ∀ e ∈ es, '\n' ∉ e) (previous : Option Char) :
    parseEntries (renderAfter previous es) = (written es).filter fun e => e.head? ≠ some '#' := by
  have line : ∀ e ∈ written es, parseEntries e = (Option.guard (fun e => e.head? ≠ some '#') e).toList := by
    intro e mem
    obtain ⟨⟨e', inside, rfl⟩, some_text⟩ := mem_written.mp mem
    rw [parseEntries_of_whole fun feed => whole e' inside (Text.mem_of_mem_trim feed),
      entry?_of_tight (Text.tight_trim e') some_text]
    by_cases comment : (Text.trim e').head? = some '#' <;> simp [Option.guard, comment]
  rw [parseEntries_renderAfter_eq_flatMap, List.flatMap_congr line, ← List.filterMap_eq_flatMap_toList,
    List.filterMap_eq_filter]

theorem parseEntries_renderEntries (whole : ∀ e ∈ es, '\n' ∉ e) :
    parseEntries (renderEntries es) = (written es).filter fun e => e.head? ≠ some '#' :=
  parseEntries_renderAfter whole none

/-- Entries are written as they are when they are trimmed and the empty ones are gone. -/
theorem renderAfter_written (es : List Text) (previous : Option Char) :
    renderAfter previous es = renderAfter previous (written es) := by
  induction es generalizing previous with
  | nil => rfl
  | cons e es ih =>
    by_cases blank : Text.trim e = []
    · rw [renderAfter_cons_of_blank blank, written_cons_of_blank blank, ih]
    · have trimmed : Text.trim (Text.trim e) = Text.trim e := (Text.tight_trim e).trim_eq
      obtain ⟨c, head, rendered⟩ := renderAfter_cons_of_some blank previous es
      obtain ⟨c', head', rendered'⟩ := renderAfter_cons_of_some (trimmed.symm ▸ blank) previous (written es)
      rw [trimmed] at head' rendered'
      obtain rfl : c = c' := Option.some.inj (head.symm.trans head')
      rw [written_cons_of_some blank, rendered, rendered', ih]

theorem renderEntries_of_nothing (nothing : written es = []) : renderEntries es = [] := by
  rw [renderEntries, renderAfter_written, nothing]
  rfl

theorem renderEntries_of_one (one : written es = [e]) : renderEntries es = '\n' :: (e ++ ['\n']) := by
  obtain ⟨trimmed, some_text⟩ := trim_of_mem_written (one ▸ List.mem_singleton_self e)
  obtain ⟨c, -, rendered⟩ := renderAfter_cons_of_some some_text none []
  rw [renderEntries, renderAfter_written, one, rendered, trimmed]
  rfl

/-- What is written are line feeds and characters of the entries. -/
theorem mem_renderAfter {c : Char} {previous : Option Char} (mem : c ∈ renderAfter previous es) :
    c = '\n' ∨ ∃ e ∈ es, c ∈ e := by
  induction es generalizing previous with
  | nil => cases mem
  | cons e es ih =>
    by_cases blank : Text.trim e = []
    · rw [renderAfter_cons_of_blank blank] at mem
      exact (ih mem).imp id fun ⟨e', inside, mem⟩ => ⟨e', List.mem_cons_of_mem _ inside, mem⟩
    · obtain ⟨first, -, rendered⟩ := renderAfter_cons_of_some blank previous es
      rw [rendered] at mem
      obtain empty | here | rfl | later : c ∈ (if previous = some first then ([] : Text) else ['\n']) ∨
          c ∈ Text.trim e ∨ c = '\n' ∨ c ∈ renderAfter (some first) es := by
        simpa only [List.mem_append, List.mem_cons] using mem
      · split at empty
        · cases empty
        · exact Or.inl (List.mem_singleton.mp empty)
      · exact Or.inr ⟨e, List.mem_cons_self, Text.mem_of_mem_trim here⟩
      · exact Or.inl rfl
      · exact (ih later).imp id fun ⟨e', inside, mem⟩ => ⟨e', List.mem_cons_of_mem _ inside, mem⟩

/-- What is written is nothing, or begins with a line feed. -/
theorem renderEntries_cases (es : List Text) : renderEntries es = [] ∨ ∃ r, renderEntries es = '\n' :: r := by
  cases some_entry : written es with
  | nil => exact Or.inl (renderEntries_of_nothing some_entry)
  | cons e later =>
    obtain ⟨-, some_text⟩ := trim_of_mem_written (some_entry ▸ List.mem_cons_self)
    obtain ⟨c, -, rendered⟩ := renderAfter_cons_of_some some_text none later
    rw [renderEntries, renderAfter_written, some_entry, rendered]
    exact Or.inr ⟨_, rfl⟩

/-- What is written adds its entries to those of any text. -/
theorem parseEntries_append_renderEntries (t : Text) (es : List Text) :
    parseEntries (t ++ renderEntries es) = parseEntries t ++ parseEntries (renderEntries es) := by
  obtain nothing | ⟨r, lines⟩ := renderEntries_cases es
  · rw [nothing, List.append_nil]
    exact (List.append_nil _).symm
  · rw [lines]
    exact parseEntries_append_newline t r

/-- What is written adds to the entries of any text those of the entries' own lines, whether the last line of the text is
ended or not. Entries without line feeds are added as they are when trimmed, in their order and as often as they come, but
for the empty ones and those that begin with `#`. -/
theorem parseEntries_of_appended (old : Text) (es : List Text) :
    parseEntries (old ++ renderEntries es) = parseEntries old ++ parseEntries (renderEntries es) ∧
      parseEntries (renderEntries es) = ((es.map Text.trim).filter fun e => e ≠ []).flatMap parseEntries ∧
      ((∀ e ∈ es, '\n' ∉ e) →
        parseEntries (renderEntries es) = (es.map Text.trim).filter fun e => e ≠ [] ∧ e.head? ≠ some '#') := by
  refine ⟨parseEntries_append_renderEntries old es, parseEntries_renderAfter_eq_flatMap none es, fun whole => ?_⟩
  rw [parseEntries_renderEntries whole, written, List.filter_filter]
  exact List.filter_congr fun e _ => by simp [Bool.and_comm]

/-- A text whose last line is open, and entries with blanks, a carriage return, a comment and a repetition. -/
theorem parseEntries_of_appended_odd_entries :
    let old := "# kept\r\na\n\tb\r".toList
    let es := [" b ".toList, "\t".toList, "#c".toList, "d\re".toList, [], "b".toList]
    (∀ e ∈ es, '\n' ∉ e) ∧ parseEntries (renderEntries es) = ["b".toList, "d\re".toList, "b".toList] ∧
      parseEntries (old ++ renderEntries es) =
        ["a".toList, "b".toList, "b".toList, "d\re".toList, "b".toList] := by
  intro old es
  have whole : ∀ e ∈ es, '\n' ∉ e := by decide
  obtain ⟨appended, -, added⟩ := parseEntries_of_appended old es
  have added : parseEntries (renderEntries es) = ["b".toList, "d\re".toList, "b".toList] :=
    (added whole).trans (by decide)
  refine ⟨whole, added, ?_⟩
  rw [appended, added]
  decide

end TodoLedger.Ignore
