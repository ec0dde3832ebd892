import TodoLedger.Ignore.Entries
import TodoLedger.Proofs.Disk.Append
import TodoLedger.Proofs.Ignore.Rendered
import TodoLedger.Proofs.Text.Misread

/-! Updates of an ignore file. Entries are added in UTF-8. So a file in UTF-8 keeps its entries and gains those that are
added, and a file in UTF-16 is read with pairs of the bytes added as characters, if it can still be read. -/

namespace TodoLedger.Ignore

variable {d d' : Disk} {p t u e : Text} {es old : List Text} {content r : Bytes} {order : Text.ByteOrder}

/-! ### Reading and writing -/

theorem load_eq_ok_some_iff : load d p = .ok (some old) ↔
    ∃ content t e, d.read p = .ok content ∧ TextEncoding.Stores e t content ∧ old = parseEntries t := by
  simp only [← TextEncoding.decode?_eq_some_iff]
  rw [load]
  cases d.read p with
  | error e => cases e <;> simp
  | ok content =>
    cases decoded : TextEncoding.decode? content with
    | none => simp [decoded]
    | some te =>
      obtain ⟨t, e⟩ := te
      simp [decoded, eq_comm]

theorem append_of_save (saved : save d p es true = .ok d') : d.append p (Text.utf8 (renderEntries es)) = .ok d' := by
  rw [save, if_pos rfl] at saved
  split at saved
  · cases saved
    assumption
  · cases saved
  · cases saved

/-! ### Stored texts with bytes behind them -/

/-- A text in UTF-8 can be continued, but not begun with the character that stands for the mark. -/
theorem stores_append (stored : TextEncoding.utf8.Stores t content) (unmarked : u.head? ≠ some '\uFEFF') :
    TextEncoding.utf8.Stores (t ++ u) (content ++ Text.utf8 u) := by
  rcases stored with rfl | ⟨-, plain, rfl⟩
  · left
    rw [List.append_assoc]
    exact congrArg _ (Text.utf8_append t u).symm
  · refine Or.inr ⟨rfl, ?_, (Text.utf8_append t u).symm⟩
    cases t with
    | nil => exact unmarked
    | cons c t => exact plain

/-- Bytes behind a text in UTF-16 are read in UTF-16. -/
theorem decode?_append (stored : (TextEncoding.utf16 order).Stores t content) (r : Bytes) :
    TextEncoding.decode? (content ++ r) = (Text.ofUtf16? order r).map fun u => (t ++ u, .utf16 order) := by
  obtain rfl := TextEncoding.stores_utf16_iff.mp stored
  have behind := Text.ofUtf16?_append order t r
  cases read : Text.ofUtf16? order r with
  | some u =>
    rw [read, Option.map_some, Text.ofUtf16?_eq_some_iff] at behind
    rw [Option.map_some, TextEncoding.decode?_eq_some_iff, TextEncoding.stores_utf16_iff, List.append_assoc, behind]
  | none =>
    rw [read, Option.map_none] at behind
    rw [Option.map_none, Option.eq_none_iff_forall_ne_some]
    rintro ⟨t', e⟩ decoded
    have stored := TextEncoding.decode?_eq_some_iff.mp decoded
    rw [List.append_assoc] at stored
    cases e with
    | utf8 => exact TextEncoding.not_stores_utf8 order t' _ stored
    | utf16 order' =>
      have whole := TextEncoding.stores_utf16_iff.mp stored
      obtain rfl : order = order' := by
        cases order <;> cases order' <;> first | rfl | cases (List.cons.inj whole).1
      rw [Text.ofUtf16?_eq_some_iff.mpr (List.append_cancel_left whole)] at behind
      cases behind

/-! ### Entries in the midst of UTF-16 -/

/-- The byte zero stands for the character zero alone. -/
theorem zero_mem_of_utf8 (mem : (0 : UInt8) ∈ Text.utf8 t) : '\x00' ∈ t := by
  obtain ⟨c, inside, here⟩ := List.mem_flatMap.mp mem
  have zero : c.toNat = 0 := by
    have valid := Text.toNat_cases c
    rw [Char.toNat] at valid ⊢
    rw [String.utf8EncodeChar] at here
    split_ifs at here <;>
      simp only [List.mem_cons, List.not_mem_nil, or_false, ← UInt8.toNat_inj, UInt8.toNat_ofNat', UInt8.toNat_zero]
        at here <;> omega
  rwa [← Char.toNat_inj.mp (show c.toNat = '\x00'.toNat from zero)]

theorem zero_mem_utf16 (order : Text.ByteOrder) (feed : '\n' ∈ t) : (0 : UInt8) ∈ Text.utf16 order t := by
  refine List.mem_flatMap.mpr ⟨10, List.mem_flatMap.mpr ⟨'\n', feed, by decide⟩, ?_⟩
  cases order <;> decide

/-- A line feed has a byte zero in UTF-16, and entries without zero characters have none in UTF-8. -/
theorem newline_not_mem_misread (plain : ∀ e ∈ es, '\x00' ∉ e)
    (encoded : Text.utf16 order u = Text.utf8 (renderEntries es)) : '\n' ∉ u := by
  intro feed
  have zero := zero_mem_utf16 order feed
  rw [encoded] at zero
  obtain same | ⟨e, inside, mem⟩ := mem_renderAfter (zero_mem_of_utf8 zero)
  · exact absurd same (by decide)
  · exact plain e inside mem

/-- The only entry that is written is not read as itself. -/
theorem trim_misread_ne (plain : ∀ e ∈ es, '\x00' ∉ e)
    (encoded : Text.utf16 order u = Text.utf8 (renderEntries es)) (one : written es = [e]) : Text.trim u ≠ e := by
  obtain ⟨⟨e', inside, rfl⟩, some_text⟩ := mem_written.mp (one ▸ List.mem_singleton_self e)
  have line : Text.utf16 order u = 0x0A :: (Text.utf8 (Text.trim e') ++ [0x0A]) := by
    rw [encoded, renderEntries_of_one one, ← List.singleton_append, Text.utf8_append, Text.utf8_append]
    rfl
  exact Text.trim_ne_of_line some_text (fun zero => plain e' inside (Text.mem_of_mem_trim zero)) line

/-- Entries that are read in UTF-16 are not the ones that were written in UTF-8. -/
theorem parseEntries_ne (plain : ∀ e ∈ es, '\x00' ∉ e) (some_entry : written es ≠ [])
    (misread : Text.ofUtf16? order (Text.utf8 (renderEntries es)) = some u) (t : Text) :
    parseEntries (t ++ u) ≠ parseEntries t ++ written es := by
  intro same
  have encoded := (Text.ofUtf16?_eq_some_iff.mp misread).symm
  -- nothing that is read is a line feed, so only one line is left for all of it
  have whole := newline_not_mem_misread plain encoded
  obtain ⟨before, l, entries⟩ := exists_last_line t
  have alone := entries [] List.not_mem_nil
  rw [List.append_nil, List.append_nil] at alone
  rw [entries u whole, alone, List.append_assoc, List.append_cancel_left_eq] at same
  cases already : entry? l with
  | some e =>
    have most : ( entry? (l ++ u)).toList.length ≤ 1 := by cases entry? (l ++ u) <;> simp
    have more := List.length_pos_iff.mpr some_entry
    rw [same, already, Option.toList_some, List.length_append, List.length_singleton] at most
    omega
  | none =>
    rw [already] at same
    cases read : entry? (l ++ u) with
    | none =>
      rw [read] at same
      exact some_entry same.symm
    | some e =>
      rw [read] at same
      exact trim_misread_ne plain encoded same.symm (trim_of_entry?_append already read)

/-! ### The update -/

theorem parseEntries_append_written (whole : ∀ e ∈ es, '\n' ∉ e) (bare : ∀ e ∈ es, (Text.trim e).head? ≠ some '#')
    (t : Text) : parseEntries (t ++ renderEntries es) = parseEntries t ++ written es := by
  rw [parseEntries_append_renderEntries, parseEntries_renderEntries whole, List.filter_eq_self.mpr]
  intro e mem
  obtain ⟨⟨e', inside, rfl⟩, -⟩ := mem_written.mp mem
  exact decide_eq_true (bare e' inside)

theorem head?_renderEntries_ne (es : List Text) : (renderEntries es).head? ≠ some '\uFEFF' := by
  obtain nothing | ⟨r, lines⟩ := renderEntries_cases es
  · rw [nothing]
    nofun
  · rw [lines]
    exact fun same => absurd (Option.some.inj same) (by decide)

/-- An update adds the bytes of the entries in UTF-8 to the file. If the file is in UTF-8, or there is nothing to add,
the entries it had are read back and those that were added after them. If it is in UTF-16, the bytes are read in pairs
behind its text, or the file cannot be read any more; entries without zero characters are not what is read then. -/
theorem load_of_update (loaded : load d p = .ok (some old)) (saved : save d p es true = .ok d')
    (whole : ∀ e ∈ es, '\n' ∉ e) (bare : ∀ e ∈ es, (Text.trim e).head? ≠ some '#') :
    let added := (es.map Text.trim).filter fun e => e ≠ []
    ∃ content t encoding, d.read p = .ok content ∧ TextEncoding.Stores encoding t content ∧ old = parseEntries t ∧
      d'.read p = .ok (content ++ Text.utf8 (renderEntries es)) ∧
      (encoding = .utf8 ∨ added = [] → load d' p = .ok (some (old ++ added))) ∧
      (∀ order, encoding = .utf16 order → load d' p =
        match Text.ofUtf16? order (Text.utf8 (renderEntries es)) with
        | some u => .ok (some (parseEntries (t ++ u)))
        | none => .error (.unsupportedEncoding p)) ∧
      ((∀ e ∈ es, '\x00' ∉ e) → encoding ≠ .utf8 → added ≠ [] → load d' p ≠ .ok (some (old ++ added))) := by
  intro added
  obtain ⟨content, t, encoding, read, stored, rfl⟩ := load_eq_ok_some_iff.mp loaded
  have behind : d'.read p = .ok (content ++ Text.utf8 (renderEntries es)) := by
    obtain ⟨before, same, after⟩ | ⟨missing, -⟩ := Disk.read_append (append_of_save saved)
    · cases read.symm.trans same
      exact after
    · cases read.symm.trans missing
  have misread : ∀ order, encoding = .utf16 order → load d' p =
      match Text.ofUtf16? order (Text.utf8 (renderEntries es)) with
      | some u => .ok (some (parseEntries (t ++ u)))
      | none => .error (.unsupportedEncoding p) := by
    rintro order rfl
    rw [load, behind]
    dsimp only
    rw [decode?_append stored]
    cases Text.ofUtf16? order (Text.utf8 (renderEntries es)) <;> rfl
  refine ⟨content, t, encoding, read, stored, rfl, behind, ?_, misread, ?_⟩
  · rintro (rfl | nothing)
    · have kept := stores_append stored (head?_renderEntries_ne es)
      exact load_eq_ok_some_iff.mpr ⟨_, _, _, behind, kept, (parseEntries_append_written whole bare t).symm⟩
    · rw [renderEntries_of_nothing nothing] at behind
      rw [nothing, List.append_nil]
      exact load_eq_ok_some_iff.mpr ⟨_, _, _, behind, (List.append_nil content).symm ▸ stored, rfl⟩
  · intro plain other some_entry kept
    cases encoding with
    | utf8 => exact other rfl
    | utf16 order =>
      rw [misread order rfl] at kept
      split at kept
      · rename_i u read
        exact parseEntries_ne plain some_entry read t (Option.some.inj (Except.ok.inj kept))
      · cases kept

/-- A file in UTF-8 with a mark and an open last line, and a file in UTF-16 to which two pairs of bytes are added. -/
theorem load_of_two_updates :
    let p := ".todo-ignore".toList
    let holding := fun content : Bytes => (⟨[([p], .file content)], []⟩ : Disk)
    let content₁ := [0xEF, 0xBB, 0xBF] ++ Text.utf8 "# kept\r\na".toList
    let content₂ := [0xFF, 0xFE] ++ Text.utf16 .little "a\n".toList
    let es := [" b ".toList, "\t".toList, "c".toList]
    load (holding content₁) p = .ok (some ["a".toList]) ∧ load (holding content₂) p = .ok (some ["a".toList]) ∧
      (∃ d', save (holding content₁) p es true = .ok d' ∧
        load d' p = .ok (some ["a".toList, "b".toList, "c".toList])) ∧
      ∃ d', save (holding content₂) p ["bc".toList] true = .ok d' ∧
        load d' p = .ok (some ["a".toList, "戊\u0A63".toList]) ∧ load d' p ≠ .ok (some ["a".toList, "bc".toList]) := by
  intro p holding content₁ content₂ es
  have loaded₁ : load (holding content₁) p = .ok (some ["a".toList]) := by decide +kernel
  have loaded₂ : load (holding content₂) p = .ok (some ["a".toList]) := by decide +kernel
  have saved₁ : save (holding content₁) p es true =
      .ok (holding (content₁ ++ Text.utf8 "\nb\n\nc\n".toList)) := by decide +kernel
  have saved₂ : save (holding content₂) p ["bc".toList] true =
      .ok (holding (content₂ ++ Text.utf8 "\nbc\n".toList)) := by decide +kernel
  refine ⟨loaded₁, loaded₂, ⟨_, saved₁, ?_⟩, _, saved₂, ?_⟩
  · obtain ⟨content, t, encoding, read, stored, -, -, kept, -⟩ := load_of_update loaded₁ saved₁ (by decide) (by decide)
    obtain rfl : content₁ = content := Except.ok.inj read
    have text : TextEncoding.decode? content₁ = some ("# kept\r\na".toList, .utf8) := by decide +kernel
    cases text.symm.trans (TextEncoding.decode?_eq_some_iff.mpr stored)
    exact kept (Or.inl rfl)
  · obtain ⟨content, t, encoding, read, stored, -, -, -, misread, lost⟩ :=
      load_of_update loaded₂ saved₂ (by decide) (by decide)
    obtain rfl : content₂ = content := Except.ok.inj read
    have text : TextEncoding.decode? content₂ = some ("a\n".toList, .utf16 .little) := by decide +kernel
    cases text.symm.trans (TextEncoding.decode?_eq_some_iff.mpr stored)
    refine ⟨(misread .little rfl).trans (by decide +kernel), ?_⟩
    exact lost (by decide) (by decide) (by decide)

/-- Three bytes added to a file in UTF-16 are one and a half characters. -/
theorem update_of_utf16_unread :
    let p := ".todo-ignore".toList
    let d : Disk := ⟨[([p], .file [0xFF, 0xFE, 0x61, 0x00, 0x0A, 0x00])], []⟩
    let es := ["b".toList]
    load d p = .ok (some ["a".toList]) ∧ (∀ e ∈ es, '\n' ∉ e ∧ '\r' ∉ e ∧ (Text.trim e).head? ≠ some '#') ∧
      ∃ d', save d p es true = .ok d' ∧ load d' p = .error (.unsupportedEncoding p) ∧
        load d' p ≠ .ok (some (["a".toList] ++ (es.map Text.trim).filter fun e => e ≠ [])) := by
  intro p d es
  have loaded : load d p = .ok (some ["a".toList]) := by decide +kernel
  have line : ∀ e ∈ es, '\n' ∉ e ∧ '\r' ∉ e ∧ (Text.trim e).head? ≠ some '#' := by decide
  refine ⟨loaded, line, ⟨[([p], .file [0xFF, 0xFE, 0x61, 0x00, 0x0A, 0x00, 0x0A, 0x62, 0x0A])], []⟩, ?_, ?_, ?_⟩
  · decide +kernel
  · decide +kernel
  · decide +kernel

end TodoLedger.Ignore
