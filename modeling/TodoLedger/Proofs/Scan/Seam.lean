import TodoLedger.Proofs.Scan.Window
import TodoLedger.Proofs.Text.Lines

/-! Texts that are joined with an empty line between them. No window reaches across a blank line, so each text has the
hits that it has alone, and those of the second only stand further down. -/

namespace TodoLedger

variable {near far : List Text} {blank : Text}

theorem Window.reach_append_blank (limit : Nat) (hb : Text.allBlank blank = true) :
    reach limit (near ++ blank :: far) = reach limit near := by
  induction near generalizing limit with
  | nil =>
    cases limit with
    | zero => simp
    | succ limit => rw [List.nil_append, reach_succ_cons, if_pos hb, reach_nil]
  | cons line near ih =>
    cases limit with
    | zero => simp
    | succ limit => rw [List.cons_append, reach_succ_cons, reach_succ_cons, ih]

/-- The hit as it is in a text with more lines above it. -/
def Hit.below (n : Nat) (h : Hit) : Hit :=
  { h with line := h.line + n, line_pos := Nat.add_pos_left h.line_pos n }

theorem Hit.ofDirective_add (file : Text) (i n : Nat) (d : Directive) (w : Window) :
    ofDirective file (i + n) d w = (ofDirective file i d w).below n := by
  simp only [ofDirective, below, Nat.add_right_comm]

namespace Scanner

variable {s : Scanner} {g : Grammar} {file a : Text} {earlier : List Text}

/-- Lines before a blank one have the hits that they have without what comes after it. -/
theorem hitsAfter_append_blank (s : Scanner) (g : Grammar) (file : Text) (earlier near far : List Text)
    (hb : Text.allBlank blank = true) :
    s.hitsAfter g file earlier (near ++ blank :: far) =
      s.hitsAfter g file earlier near ++ s.hitsAfter g file (near.reverse ++ earlier) (blank :: far) := by
  induction near generalizing earlier with
  | nil => rfl
  | cons line near ih =>
    have window : Window.around s.contextLimit earlier line (near ++ blank :: far) =
        Window.around s.contextLimit earlier line near := by
      rw [Window.around, Window.around, Window.reach_append_blank s.contextLimit hb]
    rw [List.cons_append, hitsAfter, hitsAfter, ih, window, List.reverse_cons, List.append_assoc]
    cases s.directive? g line <;> rfl

/-- Lines behind a blank one have the hits that they have without what comes before it, further down. -/
theorem hitsAfter_of_blank (s : Scanner) (g : Grammar) (file : Text) (near far lines : List Text)
    (hb : Text.allBlank blank = true) :
    s.hitsAfter g file (near ++ blank :: far) lines =
      (s.hitsAfter g file near lines).map (Hit.below (far.length + 1)) := by
  induction lines generalizing near with
  | nil => rfl
  | cons line lines ih =>
    have window : Window.around s.contextLimit (near ++ blank :: far) line lines =
        Window.around s.contextLimit near line lines := by
      rw [Window.around, Window.around, Window.reach_append_blank s.contextLimit hb]
    rw [hitsAfter, hitsAfter, ← List.cons_append, ih, window]
    cases s.directive? g line with
    | none => rfl
    | some d =>
      refine congrArg (· :: _) ?_
      rw [List.length_append, List.length_cons]
      exact Hit.ofDirective_add file near.length (far.length + 1) d _

theorem directive?_nil (s : Scanner) (g : Grammar) : s.directive? g [] = none := by
  rw [directive?]
  split <;> rfl

theorem hitsAfter_replicate_append (s : Scanner) (g : Grammar) (file : Text) (earlier lines : List Text) (n : Nat) :
    s.hitsAfter g file earlier (List.replicate n [] ++ lines) =
      s.hitsAfter g file (List.replicate n [] ++ earlier) lines := by
  induction n generalizing earlier with
  | zero => rfl
  | succ n ih =>
    calc s.hitsAfter g file earlier (List.replicate (n + 1) [] ++ lines)
        = s.hitsAfter g file ([] :: earlier) (List.replicate n [] ++ lines) := by
          rw [List.replicate_succ, List.cons_append, hitsAfter, directive?_nil]
      _ = s.hitsAfter g file (List.replicate n [] ++ [] :: earlier) lines := ih _
      _ = s.hitsAfter g file (List.replicate (n + 1) [] ++ earlier) lines := by
          rw [List.replicate_succ', List.append_assoc, List.singleton_append]

/-- Two texts with an empty line between them have the hits of the first, then those of the second as many lines further
down as there are before it; apart from that number no hit is changed. -/
theorem hits_of_joined (s : Scanner) (file extension : Text) (no_return : a.getLast? ≠ some '\r') (b : Text) :
    s.hits file extension (a ++ "\n\n".toList ++ b) =
      s.hits file extension a ++
        (s.hits file extension b).map (Hit.below (Text.lines (a ++ "\n\n".toList)).length) := by
  let language := Grammar.ofLanguage (Language.ofExtension extension)
  -- the first empty line of the gap keeps the texts apart, the others only move the second one down
  obtain ⟨n, above⟩ := Text.lines_append_gap no_return
  have all : Text.lines (a ++ "\n\n".toList ++ b) = Text.lines a ++ [] :: (List.replicate n [] ++ Text.lines b) := by
    rw [Text.lines_append_of_ended (by simp), above, List.append_assoc, List.replicate_succ, List.cons_append]
  have count : (List.replicate n [] ++ (Text.lines a).reverse).length + 1 = (Text.lines (a ++ "\n\n".toList)).length := by
    simp only [above, List.length_append, List.length_replicate, List.length_reverse]
    omega
  have second : s.hitsAfter language file (Text.lines a).reverse ([] :: (List.replicate n [] ++ Text.lines b)) =
      (s.hits file extension b).map (Hit.below (Text.lines (a ++ "\n\n".toList)).length) := by
    rw [← count, ← List.cons_append, ← List.replicate_succ, hitsAfter_replicate_append, List.replicate_succ,
      List.cons_append]
    exact hitsAfter_of_blank s language file [] _ _ rfl
  rw [hits, all, hitsAfter_append_blank s language file [] _ _ rfl, List.append_nil, second]
  rfl

/-- Two texts whose hits would see each other's lines without the empty line between them. -/
theorem hits_of_joined_scripts :
    let s := Scanner.new 8 "# todoon".toList
    let a := "x = 1\n# TODO one".toList
    let b := "# FIXME two\r\ny = 2".toList
    a.getLast? ≠ some '\r' ∧ (Text.lines (a ++ "\n\n".toList)).length = 3 ∧
      (s.hits "a.py".toList "py".toList (a ++ "\n\n".toList ++ b)).map (fun h => (h.line, h.context)) =
        [(2, ["x = 1".toList, "# TODO one".toList]), (4, ["# FIXME two".toList, "y = 2".toList])] := by
  intro s a b
  have no_return : a.getLast? ≠ some '\r' := by decide
  refine ⟨no_return, by decide, ?_⟩
  rw [hits_of_joined s "a.py".toList "py".toList no_return b]
  decide +kernel

end Scanner

end TodoLedger
