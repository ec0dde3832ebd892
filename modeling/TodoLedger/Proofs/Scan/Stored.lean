import TodoLedger.Proofs.Scan.Hits
import TodoLedger.Proofs.Text.Encoding
import TodoLedger.Scan.Result

/-! Stored texts. The hits of a file are those of its text, in whichever encoding the text is stored, with a byte order
mark or without, and whether its lines end in a line feed alone or in a carriage return and a line feed. -/

namespace TodoLedger

/-! ### Line endings -/

namespace Text

variable {t r u : Text} {c : Char}

/-- The text with a carriage return before each line feed. -/
def withReturns (t : Text) : Text := substitute '\n' ['\r', '\n'] t

theorem withReturns_cons (hc : c ≠ '\n') (r : Text) : withReturns (c :: r) = c :: withReturns r := by
  simp [withReturns, substitute, hc]

theorem lines_cons_congr (hn : c ≠ '\n') (hr : c ≠ '\r') (same : lines r = lines u) :
    lines (c :: r) = lines (c :: u) := by
  simp [lines, hr, same]

/-- A carriage return right before a line feed is no part of a line. -/
theorem lines_withReturns (no_return : '\r' ∉ t) : lines (withReturns t) = lines t := by
  induction t with
  | nil => rfl
  | cons c r ih =>
    have later := ih (List.not_mem_of_not_mem_cons no_return)
    by_cases hc : c = '\n'
    · subst hc
      exact congrArg ([] :: ·) later
    · have hr : c ≠ '\r' := fun same => no_return (same ▸ List.mem_cons_self)
      rw [withReturns_cons hc, lines_cons_congr hc hr later]

theorem head?_withReturns_ne (unmarked : t.head? ≠ some '\uFEFF') : (withReturns t).head? ≠ some '\uFEFF' := by
  cases t with
  | nil => exact unmarked
  | cons c r =>
    by_cases hc : c = '\n'
    · subst hc
      nofun
    · rw [withReturns_cons hc]
      exact unmarked

end Text

/-! ### Scanning a stored text -/

namespace Scanner

variable {s : Scanner} {d : Disk} {base path t u : Text} {content : Bytes}

/-- The contents of a file that holds a text: in UTF-8, with a mark or without, or in UTF-16 of either byte order, and
with line feeds as they are or with carriage returns before them. -/
def storedForms (t : Text) : List Bytes :=
  [t, Text.withReturns t].flatMap fun u =>
    [Text.utf8 u, [0xEF, 0xBB, 0xBF] ++ Text.utf8 u, [0xFF, 0xFE] ++ Text.utf16 .little u,
      [0xFE, 0xFF] ++ Text.utf16 .big u]

theorem exists_stores_of_mem_storedForms (unmarked : t.head? ≠ some '\uFEFF') (hc : content ∈ storedForms t) :
    ∃ u e, (u = t ∨ u = Text.withReturns t) ∧ TextEncoding.Stores e u content := by
  obtain ⟨u, hu, hc⟩ := List.mem_flatMap.mp hc
  have text : u = t ∨ u = Text.withReturns t := List.mem_pair.mp hu
  simp only [List.mem_cons, List.not_mem_nil, or_false] at hc
  rcases hc with rfl | rfl | rfl | rfl
  · refine ⟨u, .utf8, text, Or.inr ⟨rfl, ?_, rfl⟩⟩
    rcases text with rfl | rfl
    · exact unmarked
    · exact Text.head?_withReturns_ne unmarked
  · exact ⟨u, .utf8, text, Or.inl rfl⟩
  · exact ⟨u, .utf16 .little, text, Or.inl rfl⟩
  · exact ⟨u, .utf16 .big, text, Or.inl rfl⟩

theorem hits_congr (file extension : Text) (same : Text.lines t = Text.lines u) :
    s.hits file extension t = s.hits file extension u := by
  rw [hits, hits, same]

theorem scanFile_of_stores {e : TextEncoding} (hd : d.read path = .ok content) (stored : e.Stores t content) :
    s.scanFile d base path =
      .ok ⟨reportedPath base path, e, s.hits (reportedPath base path) (Path.extension path) t⟩ := by
  rw [scanFile, hd]
  simp only [TextEncoding.decode?_eq_some_iff.mpr stored]

theorem exists_scanned_of_storedForms (no_return : '\r' ∉ t) (unmarked : t.head? ≠ some '\uFEFF')
    (hd : d.read path = .ok content) (hc : content ∈ storedForms t) :
    ∃ f, s.scanFile d base path = .ok f ∧ f.hits = s.hits (reportedPath base path) (Path.extension path) t := by
  obtain ⟨u, e, text, stored⟩ := exists_stores_of_mem_storedForms unmarked hc
  refine ⟨_, scanFile_of_stores hd stored, ?_⟩
  rcases text with rfl | rfl
  · rfl
  · exact hits_congr _ _ (Text.lines_withReturns no_return)

/-- How a text is stored does not change what is found in it: two files under one path that hold the text in any two of
its stored forms are both scanned, and have the same hits, which are those of the text. -/
theorem hits_of_stored_text {d₁ d₂ : Disk} {content₁ content₂ : Bytes} (s : Scanner) (base : Text)
    (no_return : '\r' ∉ t) (unmarked : t.head? ≠ some '\uFEFF')
    (hd₁ : d₁.read path = .ok content₁) (hd₂ : d₂.read path = .ok content₂)
    (hc₁ : content₁ ∈ storedForms t) (hc₂ : content₂ ∈ storedForms t) :
    ∃ f₁ f₂, s.scanFile d₁ base path = .ok f₁ ∧ s.scanFile d₂ base path = .ok f₂ ∧ f₁.hits = f₂.hits ∧
      f₁.hits = s.hits (reportedPath base path) (Path.extension path) t := by
  obtain ⟨f₁, scanned₁, hits₁⟩ := exists_scanned_of_storedForms no_return unmarked hd₁ hc₁
  obtain ⟨f₂, scanned₂, hits₂⟩ := exists_scanned_of_storedForms no_return unmarked hd₂ hc₂
  exact ⟨f₁, f₂, scanned₁, scanned₂, hits₁.trans hits₂.symm, hits₁⟩

/-- A text in UTF-8 and the same text in UTF-16 with other line endings. -/
theorem hits_of_two_stored_forms :
    let s := Scanner.new 8 "# todoon".toList
    let t := "größe = 1\n# TODO count 😀 too\n".toList
    let content₁ := Text.utf8 t
    let content₂ := [0xFF, 0xFE] ++ Text.utf16 .little (Text.withReturns t)
    let d₁ : Disk := ⟨[(["a.py".toList], .file content₁)], []⟩
    let d₂ : Disk := ⟨[(["a.py".toList], .file content₂)], []⟩
    '\r' ∉ t ∧ t.head? ≠ some '\uFEFF' ∧ d₁.read "a.py".toList = .ok content₁ ∧ d₂.read "a.py".toList = .ok content₂ ∧
      content₁ ∈ storedForms t ∧ content₂ ∈ storedForms t ∧ content₁ ≠ content₂ ∧
      ∃ f₁ f₂, s.scanFile d₁ [] "a.py".toList = .ok f₁ ∧ s.scanFile d₂ [] "a.py".toList = .ok f₂ ∧
        f₁.hits = f₂.hits ∧ f₁.hits.map (·.triggeringLine) = ["# TODO count 😀 too".toList] := by
  intro s t content₁ content₂ d₁ d₂
  have no_return : '\r' ∉ t := by decide +kernel
  have unmarked : t.head? ≠ some '\uFEFF' := by decide +kernel
  have hd₁ : d₁.read "a.py".toList = .ok content₁ := by decide +kernel
  have hd₂ : d₂.read "a.py".toList = .ok content₂ := by decide +kernel
  have hc₁ : content₁ ∈ storedForms t := by decide +kernel
  have hc₂ : content₂ ∈ storedForms t := by decide +kernel
  obtain ⟨f₁, f₂, scanned₁, scanned₂, same, hits⟩ :=
    hits_of_stored_text s [] no_return unmarked hd₁ hd₂ hc₁ hc₂
  refine ⟨no_return, unmarked, hd₁, hd₂, hc₁, hc₂, by decide +kernel, f₁, f₂, scanned₁, scanned₂, same, ?_⟩
  rw [hits]
  decide +kernel

end Scanner

end TodoLedger
