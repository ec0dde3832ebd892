import TodoLedger.Proofs.Directive.Line
import TodoLedger.Scan

/-! The hits of a text against its lines. A line that is not exempt and holds a directive gives one hit, no other
line gives any, and the hits stand in the order of their lines. The context of a hit is a part of the text's lines
in which its own stands at the place of the trigger. -/

namespace TodoLedger

/-! ### Windows -/

namespace Window

variable {limit : Nat} {earlier later lines : List Text} {line : Text}

theorem reach_prefix (limit : Nat) (lines : List Text) : reach limit lines <+: lines :=
  (List.takeWhile_prefix _).trans (List.take_prefix _ _)

/-- A window is a part of the lines it is taken from. -/
theorem exists_lines_around (limit : Nat) (earlier : List Text) (line : Text) (later : List Text) :
    ∃ front back, earlier.reverse ++ line :: later = front ++ (around limit earlier line later).lines ++ back ∧
      front.length + (around limit earlier line later).triggerIndex = earlier.length := by
  obtain ⟨farther, hb⟩ := reach_prefix limit earlier
  obtain ⟨back, ha⟩ := reach_prefix limit later
  refine ⟨farther.reverse, back, ?_, ?_⟩
  · have before : earlier.reverse = farther.reverse ++ (reach limit earlier).reverse := by
      rw [← List.reverse_append, hb]
    simp only [lines, around, before, List.append_assoc, List.cons_append, ha]
  · have count := congrArg List.length hb
    rw [List.length_append] at count
    simp only [triggerIndex, around, List.length_reverse]
    omega

/-- The window of a line is a slice of the lines, with the line at the place of the trigger. -/
theorem lines_around {i : Nat} (limit : Nat) (hl : lines[i]? = some line) :
    let w := around limit (lines.take i).reverse line (lines.drop (i + 1))
    w.triggerIndex ≤ i ∧ w.lines = (lines.drop (i - w.triggerIndex)).take w.lines.length := by
  intro w
  obtain ⟨hi, rfl⟩ := List.getElem?_eq_some_iff.mp hl
  obtain ⟨front, back, split, length⟩ :=
    exists_lines_around limit (lines.take i).reverse lines[i] (lines.drop (i + 1))
  rw [List.reverse_reverse, ← List.drop_eq_getElem_cons hi, List.take_append_drop] at split
  rw [List.length_reverse, List.length_take_of_le (Nat.le_of_lt hi)] at length
  have trigger : front.length + w.triggerIndex = i := length
  have whole : lines = front ++ w.lines ++ back := split
  refine ⟨by omega, ?_⟩
  have start : i - w.triggerIndex = front.length := by omega
  rw [start]
  calc w.lines = ((front ++ (w.lines ++ back)).drop front.length).take w.lines.length := by
        rw [List.drop_left, List.take_left]
    _ = (lines.drop front.length).take w.lines.length := by rw [← List.append_assoc, ← whole]

/-- Every line of a text has a window. -/
theorem at?_succ {i : Nat} (limit : Nat) (hl : lines[i]? = some line) :
    at? lines (i + 1) limit = some (around limit (lines.take i).reverse line (lines.drop (i + 1))) := by
  obtain ⟨hi, rfl⟩ := List.getElem?_eq_some_iff.mp hl
  rw [at?, List.drop_eq_getElem_cons hi]

end Window

/-! ### The steps to a hit -/

namespace Hit

/-- The hit of a directive before it has a window: the line, as the grammar put it together, is its only
context. -/
def located (file : Text) (number : Nat) (d : Directive) : Except InvalidHit Hit :=
  (Hit.new file number d.keywords [d.line] 0).map fun h =>
    { h with
      title? := d.structured.map (·.title)
      body? := d.structured.map (·.body)
      labels? := d.labels }

/-- The hit with the lines of a window as its context. -/
def attach (h : Hit) (w : Window) : Hit :=
  { h with context := w.lines, trigger := w.triggerIndex, trigger_lt := w.triggerIndex_lt }

variable {file : Text} {i : Nat} {d : Directive}

/-- A directive is located at every line, as it has a keyword. -/
theorem located_succ (file : Text) (i : Nat) (d : Directive) :
    located file (i + 1) d = .ok (ofDirective file i d ⟨[], d.line, []⟩) := by
  have some_keyword : d.keywords.isEmpty = false := d.keywords_ne_empty
  rw [located, Hit.new, dif_neg (by simp [some_keyword]), dif_neg (Nat.succ_ne_zero i),
    dif_pos (show 0 < [d.line].length from Nat.one_pos)]
  rfl

theorem attach_ofDirective (v w : Window) : (ofDirective file i d v).attach w = ofDirective file i d w := rfl

@[simp] theorem triggeringLine_ofDirective (file : Text) (i : Nat) (d : Directive) (w : Window) :
    (ofDirective file i d w).triggeringLine = w.trigger := by
  simp [triggeringLine, ofDirective, Window.lines, Window.triggerIndex]

/-- A title that is not the directive's own is made of the keywords and the line without the blanks around it. -/
theorem title_congr {a b : Hit} (title : a.title? = b.title?) (keywords : a.keywords = b.keywords)
    (line : Text.trim a.triggeringLine = Text.trim b.triggeringLine) : a.title = b.title := by
  rw [Hit.title, Hit.title, genericTitle, genericTitle, title, keywords, line]

theorem fingerprint_congr {a b : Hit} (title : a.title = b.title) : a.fingerprint = b.fingerprint := by
  rw [Hit.fingerprint, Hit.fingerprint, title]

end Hit

/-! ### The hits of a text -/

namespace Scanner

variable {s : Scanner} {g : Grammar} {file extension text line : Text} {lines : List Text} {i : Nat}
  {d : Directive} {h : Hit}

theorem directive?_eq_some_iff : s.directive? g line = some d ↔ s.isExempt line = false ∧ g.parse? line = some d := by
  rw [directive?]
  cases s.isExempt line <;> simp

/-- The hit of the line after `i` others, made in steps: the directive of the line is located there, and the window
of the line is attached to it. -/
def hitAt? (s : Scanner) (g : Grammar) (file : Text) (lines : List Text) (i : Nat) : Option Hit :=
  (lines[i]?.bind (s.directive? g)).bind fun d =>
    match Hit.located file (i + 1) d with
    | .error _ => none
    | .ok h =>
      match Window.at? lines (i + 1) s.contextLimit with
      | none => some h
      | some w => some (h.attach w)

theorem hitAt?_of_directive (hl : lines[i]? = some line) (hd : s.directive? g line = some d) :
    s.hitAt? g file lines i = some (Hit.ofDirective file i d
      (Window.around s.contextLimit (lines.take i).reverse line (lines.drop (i + 1)))) := by
  simp only [hitAt?, hl, Option.bind_some, hd, Hit.located_succ, Window.at?_succ s.contextLimit hl,
    Hit.attach_ofDirective]

theorem hitAt?_of_no_directive (hl : lines[i]? = some line) (hd : s.directive? g line = none) :
    s.hitAt? g file lines i = none := by
  simp only [hitAt?, hl, Option.bind_some, hd, Option.bind_none]

theorem hitAt?_eq_some_iff : s.hitAt? g file lines i = some h ↔
    ∃ line d, lines[i]? = some line ∧ s.directive? g line = some d ∧ h = Hit.ofDirective file i d
      (Window.around s.contextLimit (lines.take i).reverse line (lines.drop (i + 1))) := by
  constructor
  · intro hh
    cases hl : lines[i]? with
    | none => simp [hitAt?, hl] at hh
    | some line =>
      cases hd : s.directive? g line with
      | none => simp [hitAt?_of_no_directive hl hd] at hh
      | some d =>
        rw [hitAt?_of_directive hl hd, Option.some.injEq] at hh
        exact ⟨line, d, rfl, hd, hh.symm⟩
  · rintro ⟨line, d, hl, hd, rfl⟩
    exact hitAt?_of_directive hl hd

/-- The hits of the lines after others are those of the steps at their places. -/
theorem hitsAfter_eq_filterMap (s : Scanner) (g : Grammar) (file : Text) (earlier lines : List Text) :
    s.hitsAfter g file earlier lines = (List.range lines.length).filterMap fun i =>
      s.hitAt? g file (earlier.reverse ++ lines) (earlier.length + i) := by
  induction lines generalizing earlier with
  | nil => rfl
  | cons line later ih =>
    have all : (line :: earlier).reverse ++ later = earlier.reverse ++ line :: later := by simp
    have here : (earlier.reverse ++ line :: later)[earlier.length]? = some line := by
      rw [← List.length_reverse, List.getElem?_append_right (Nat.le_refl _), Nat.sub_self, List.getElem?_cons_zero]
    have before : ((earlier.reverse ++ line :: later).take earlier.length).reverse = earlier := by
      rw [List.take_left' (List.length_reverse), List.reverse_reverse]
    have after : (earlier.reverse ++ line :: later).drop (earlier.length + 1) = later := by
      rw [← all, List.drop_left' (by simp)]
    have rest := ih (line :: earlier)
    simp only [all, List.length_cons, Nat.add_right_comm, Nat.add_assoc] at rest
    rw [hitsAfter, List.length_cons, List.range_succ_eq_map, List.filterMap_cons, List.filterMap_map]
    cases hd : s.directive? g line with
    | none =>
      rw [Nat.add_zero, hitAt?_of_no_directive here hd]
      exact rest
    | some d =>
      rw [Nat.add_zero, hitAt?_of_directive here hd, before, after]
      exact congrArg (_ :: ·) rest

theorem hits_eq_filterMap (s : Scanner) (file extension text : Text) :
    s.hits file extension text = (List.range (Text.lines text).length).filterMap
      (s.hitAt? (Grammar.ofLanguage (Language.ofExtension extension)) file (Text.lines text)) := by
  rw [hits, hitsAfter_eq_filterMap]
  simp

/-- What a hit is: the directive of a line with the window of the line. -/
theorem mem_hits_iff : h ∈ s.hits file extension text ↔
    ∃ i line d, (Text.lines text)[i]? = some line ∧ s.isExempt line = false ∧
      (Language.ofExtension extension).parse? line = some d ∧
      h = Hit.ofDirective file i d (Window.around s.contextLimit ((Text.lines text).take i).reverse line
        ((Text.lines text).drop (i + 1))) := by
  rw [hits_eq_filterMap, List.mem_filterMap]
  constructor
  · rintro ⟨i, -, hh⟩
    obtain ⟨line, d, hl, hd, rfl⟩ := hitAt?_eq_some_iff.mp hh
    obtain ⟨kept, hd⟩ := directive?_eq_some_iff.mp hd
    exact ⟨i, line, d, hl, kept, hd, rfl⟩
  · rintro ⟨i, line, d, hl, kept, hd, rfl⟩
    obtain ⟨hi, -⟩ := List.getElem?_eq_some_iff.mp hl
    exact ⟨i, List.mem_range.mpr hi, hitAt?_of_directive hl (directive?_eq_some_iff.mpr ⟨kept, hd⟩)⟩

theorem pairwise_line_lt (s : Scanner) (file extension text : Text) :
    (s.hits file extension text).Pairwise fun a b => a.line < b.line := by
  rw [hits_eq_filterMap]
  refine List.Pairwise.filterMap _ ?_ List.pairwise_lt_range
  intro i j hij a ha b hb
  obtain ⟨_, _, -, -, rfl⟩ := hitAt?_eq_some_iff.mp ha
  obtain ⟨_, _, -, -, rfl⟩ := hitAt?_eq_some_iff.mp hb
  exact Nat.succ_lt_succ hij

/-- The context of a hit is a part of the lines, in which the hit's line stands at the place of the trigger. -/
theorem context_ofDirective {i : Nat} (file : Text) (d : Directive) (limit : Nat) (hl : lines[i]? = some line) :
    let h := Hit.ofDirective file i d (Window.around limit (lines.take i).reverse line (lines.drop (i + 1)))
    h.trigger ≤ i ∧ h.context = (lines.drop (i - h.trigger)).take h.context.length :=
  Window.lines_around limit hl

/-- A text has one hit for each line that is not exempt and holds a directive, in the order of the lines. Each tells
what the directive of its line says, has the line itself as its trigger, and has a part of the text's lines around
the trigger as its context. Going through the lines in steps comes to the same hits: no directive fails to be located,
no line lacks a window, and the window changes neither title nor fingerprint. -/
theorem hits_of_lines (s : Scanner) (file extension text : Text) :
    let lines := Text.lines text
    let language := Language.ofExtension extension
    let hits := s.hits file extension text
    hits.Pairwise (fun a b => a.line < b.line) ∧
      (∀ i, (∃ h ∈ hits, h.line = i + 1) ↔
        ∃ line, lines[i]? = some line ∧ s.isExempt line = false ∧ (language.parse? line).isSome) ∧
      (∀ h ∈ hits, ∃ i line d, h.line = i + 1 ∧ lines[i]? = some line ∧ s.isExempt line = false ∧
        language.parse? line = some d ∧ h.file = Path.forwardSlashes file ∧ h.keywords = d.keywords ∧
        h.title? = d.structured.map (·.title) ∧ h.body? = d.structured.map (·.body) ∧ h.labels? = d.labels ∧
        h.keywords.isEmpty = false ∧ h.trigger < h.context.length ∧ h.triggeringLine = line ∧
        h.trigger ≤ i ∧ h.context = (lines.drop (i - h.trigger)).take h.context.length) ∧
      hits = (List.range lines.length).filterMap (s.hitAt? (Grammar.ofLanguage language) file lines) ∧
      ∀ i line d, lines[i]? = some line → language.parse? line = some d →
        ∃ h w, Hit.located file (i + 1) d = .ok h ∧ Window.at? lines (i + 1) s.contextLimit = some w ∧
          (h.attach w).title = h.title ∧ (h.attach w).fingerprint = h.fingerprint := by
  intro lines language hits
  refine ⟨pairwise_line_lt s file extension text, fun i => ⟨?_, ?_⟩, fun h hh => ?_,
    hits_eq_filterMap s file extension text, fun i line d hl hd => ?_⟩
  · rintro ⟨h, hh, hi⟩
    obtain ⟨j, line, d, hl, kept, hd, rfl⟩ := mem_hits_iff.mp hh
    obtain rfl : j = i := Nat.succ.inj hi
    exact ⟨line, hl, kept, Option.isSome_iff_exists.mpr ⟨d, hd⟩⟩
  · rintro ⟨line, hl, kept, hd⟩
    obtain ⟨d, hd⟩ := Option.isSome_iff_exists.mp hd
    exact ⟨_, mem_hits_iff.mpr ⟨i, line, d, hl, kept, hd, rfl⟩, rfl⟩
  · obtain ⟨i, line, d, hl, kept, hd, rfl⟩ := mem_hits_iff.mp hh
    obtain ⟨trigger, context⟩ := context_ofDirective file d s.contextLimit hl
    exact ⟨i, line, d, rfl, hl, kept, hd, rfl, rfl, rfl, rfl, rfl, d.keywords_ne_empty, Hit.trigger_lt _,
      Hit.triggeringLine_ofDirective _ _ _ _, trigger, context⟩
  · refine ⟨_, _, Hit.located_succ file i d, Window.at?_succ s.contextLimit hl, ?_⟩
    rw [Hit.attach_ofDirective]
    have title := Hit.title_congr (a := Hit.ofDirective file i d
        (Window.around s.contextLimit (lines.take i).reverse line (lines.drop (i + 1))))
      (b := Hit.ofDirective file i d ⟨[], d.line, []⟩) rfl rfl
      (by simp [Window.around, Grammar.line_of_parse? hd])
    exact ⟨title, Hit.fingerprint_congr title⟩

end Scanner

end TodoLedger
