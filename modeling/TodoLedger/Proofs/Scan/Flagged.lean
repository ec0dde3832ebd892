import TodoLedger.Proofs.Directive.Mention
import TodoLedger.Proofs.Scan.Hits
import TodoLedger.Proofs.Text.Lines
import TodoLedger.Proofs.Text.Lowercase

/-! Lines that carry the ignore flag. Flag and line are put in lower case apart from each other, so a line that carries the
flag is left out if the flag has the same lower case among other letters. It has unless it begins or ends with a capital
sigma, and then some line that carries the flag is reported. -/

namespace TodoLedger.Scanner

variable {s : Scanner} {flag line part rest : Text} {limit : Nat}

/-! ### Flags that settle their capital sigmas -/

theorem isExempt_of_settled (some_flag : flag ≠ [])
    (settled : ∀ before after, flag = before ++ 'Σ' :: after → Text.Settled before after)
    (same : Text.lowerAscii part = Text.lowerAscii flag) (stands : part <:+: line) :
    (Scanner.new limit flag).isExempt line = true := by
  have nonempty : (Text.lower flag).isEmpty = false := by simpa using Text.lower_ne_nil some_flag
  have carried : Text.contains (Text.lower flag) (Text.lower line) = true :=
    Text.contains_iff.mpr (Text.lower_infix_lower settled same stands)
  rw [isExempt, Scanner.new, nonempty, carried]
  rfl

/-! ### Lines that are reported -/

theorem not_isExempt_of_count {c : Char}
    (fewer : (Text.lower line).count c < (Text.lower flag).count c) : (Scanner.new limit flag).isExempt line = false := by
  have absent : Text.contains (Text.lower flag) (Text.lower line) = false := by
    rw [← Bool.not_eq_true, Text.contains_iff]
    exact fun stands => absurd (stands.sublist.count_le c) (Nat.not_le_of_lt fewer)
  rw [isExempt, Scanner.new, absent, Bool.and_false]

theorem isSome_parse?_todo (rest : Text) :
    ((Language.ofExtension "py".toList).parse? ("# TODO ".toList ++ rest)).isSome := by
  refine ((Language.directive_iff_mentions _ _).1).mpr ⟨0, ⟨Or.inl ?_, nofun⟩, .todo, ?_⟩
  · exact ⟨" TODO ".toList ++ rest, rfl⟩
  · have blank : Text.isWord ' ' = false := by decide
    refine ⟨"# ".toList, "TODO".toList, ' ' :: rest, rfl, rfl, fun c last => ?_, fun c next => ?_⟩
    · exact (show ' ' = c from Option.some.inj last) ▸ blank
    · exact (show ' ' = c from Option.some.inj next) ▸ blank

/-- A line that begins as a directive and is not exempt is reported as it stands. -/
theorem exists_hit_todo (whole : '\n' ∉ rest) (kept : s.isExempt ("# TODO ".toList ++ rest) = false) :
    ∃ h ∈ s.hits "a.py".toList "py".toList ("# TODO ".toList ++ rest),
      h.triggeringLine = "# TODO ".toList ++ rest := by
  have one_line : Text.lines ("# TODO ".toList ++ rest) = ["# TODO ".toList ++ rest] := by
    refine Text.lines_of_whole ?_ (List.cons_ne_nil _ _)
    exact fun mem => (List.mem_append.mp mem).elim (by decide) whole
  obtain ⟨d, hd⟩ := Option.isSome_iff_exists.mp (isSome_parse?_todo rest)
  exact ⟨_, mem_hits_iff.mpr ⟨0, _, d, by rw [one_line]; rfl, kept, hd, rfl⟩, Hit.triggeringLine_ofDirective _ _ _ _⟩

/-- A flag with a capital sigma that is not settled stands in a line that is reported. -/
theorem exists_flagged_hit (whole : '\n' ∉ flag) {before after : Text} (split : flag = before ++ 'Σ' :: after)
    (unsettled : ¬Text.Settled before after) (limit : Nat) :
    ∃ text, ∃ h ∈ (Scanner.new limit flag).hits "a.py".toList "py".toList text, flag <:+: h.triggeringLine := by
  -- a letter before the flag, or one behind it, changes the form of the sigma
  rcases Text.unsettled_cases unsettled with ⟨skipped, last⟩ | ⟨after_letter, skipped⟩
  · have fewer : (Text.lower ("# TODO ".toList ++ ('A' :: flag))).count 'σ' < (Text.lower flag).count 'σ' := by
      have parts := Text.lower_append "# TODO A".toList flag []
      rw [List.append_nil] at parts
      have front : Text.lowerBetween [] "# TODO A".toList (flag ++ []) = "# todo a".toList := rfl
      have behind := Text.count_lowerBetween_of_begins (c := 'A') skipped last (by decide) (by decide) " ODOT #".toList
      rw [← split] at behind
      rw [show "# TODO ".toList ++ ('A' :: flag) = "# TODO A".toList ++ flag from rfl, parts, front, List.count_append,
        List.count_append, show List.count 'σ' "# todo a".toList = 0 by decide, Nat.zero_add]
      exact behind
    obtain ⟨h, mem, trigger⟩ := exists_hit_todo (s := Scanner.new limit flag)
      (List.not_mem_cons_of_ne_of_not_mem (by decide) whole) (not_isExempt_of_count fewer)
    exact ⟨_, h, mem, trigger ▸ ⟨"# TODO A".toList, [], by rw [List.append_nil]; rfl⟩⟩
  · have fewer : (Text.lower ("# TODO ".toList ++ (flag ++ ['A']))).count 'ς' < (Text.lower flag).count 'ς' := by
      have parts := Text.lower_append "# TODO ".toList flag ['A']
      have front : Text.lowerBetween [] "# TODO ".toList (flag ++ ['A']) = "# todo ".toList := rfl
      have back : Text.lowerBetween (flag.reverse ++ "# TODO ".toList.reverse) ['A'] [] = ['a'] := rfl
      have before_letter := Text.count_lowerBetween_of_ends (c := 'A') after_letter skipped (by decide) (by decide)
        "ODOT #".toList
      rw [← split] at before_letter
      rw [← List.append_assoc, parts, front, back, List.count_append, List.count_append,
        show List.count 'ς' "# todo ".toList = 0 by decide, show List.count 'ς' ['a'] = 0 by decide, Nat.zero_add]
      exact before_letter
    have whole' : '\n' ∉ flag ++ ['A'] := fun mem => (List.mem_append.mp mem).elim whole (by decide)
    obtain ⟨h, mem, trigger⟩ := exists_hit_todo (s := Scanner.new limit flag) whole' (not_isExempt_of_count fewer)
    exact ⟨_, h, mem, trigger ▸ ⟨"# TODO ".toList, ['A'], by rw [List.append_assoc]⟩⟩

/-- No reported line carries the ignore flag, be it in another case of its ASCII letters, if and only if the flag spans
lines, which no line carries, or settles each of its capital sigmas: so every flag without one is kept. -/
theorem flagged_unreported_iff (some_flag : flag ≠ []) :
    (∀ limit file extension text, ∀ h ∈ (Scanner.new limit flag).hits file extension text,
      ∀ part, Text.lowerAscii part = Text.lowerAscii flag → ¬part <:+: h.triggeringLine) ↔
    '\n' ∈ flag ∨ ∀ before after, flag = before ++ 'Σ' :: after → Text.Settled before after := by
  constructor
  · intro unreported
    by_contra neither
    obtain ⟨whole, some_sigma⟩ := not_or.mp neither
    obtain ⟨before, after, split, unsettled⟩ : ∃ before after, flag = before ++ 'Σ' :: after ∧
        ¬Text.Settled before after := by
      by_contra all_settled
      exact some_sigma fun before after split => by_contra fun unsettled => all_settled ⟨before, after, split, unsettled⟩
    obtain ⟨text, h, mem, stands⟩ := exists_flagged_hit whole split unsettled 8
    exact unreported 8 _ _ text h mem flag rfl stands
  · intro kept limit file extension text h mem part same stands
    obtain ⟨i, line, d, hl, reported, -, rfl⟩ := mem_hits_iff.mp mem
    have trigger : (Hit.ofDirective file i d (Window.around limit ((Text.lines text).take i).reverse line
      ((Text.lines text).drop (i + 1)))).triggeringLine = line := Hit.triggeringLine_ofDirective _ _ _ _
    rw [show (Scanner.new limit flag).contextLimit = limit from rfl, trigger] at stands
    rcases kept with feed | settled
    · have inside : '\n' ∈ Text.lowerAscii part := same ▸ List.mem_map.mpr ⟨'\n', feed, by decide⟩
      obtain ⟨c, mem, lowered⟩ := List.mem_map.mp inside
      obtain rfl : c = '\n' := Text.ascii_cases (P := fun c => c.toLower = '\n' → c = '\n') c (by decide)
        (fun same lowered => same ▸ lowered) lowered
      exact Text.newline_notMem_of_mem_lines (List.mem_of_getElem? hl) (stands.subset mem)
    · rw [isExempt_of_settled some_flag settled same stands] at reported
      cases reported

/-- The default flag has no capital sigma, and a letter follows the one of the other flag. -/
theorem flagged_unreported_default :
    let unreported := fun flag : Text => ∀ limit file extension text,
      ∀ h ∈ (Scanner.new limit flag).hits file extension text,
        ∀ part, Text.lowerAscii part = Text.lowerAscii flag → ¬part <:+: h.triggeringLine
    (defaultFlag ≠ [] ∧ unreported defaultFlag) ∧ "# ΣΚΙΠ".toList ≠ [] ∧ unreported "# ΣΚΙΠ".toList := by
  refine ⟨⟨by decide, ?_⟩, by decide, ?_⟩
  · refine (flagged_unreported_iff (by decide)).mpr (Or.inr fun before after split => ?_)
    have inside : 'Σ' ∈ defaultFlag := split ▸ List.mem_append_right before List.mem_cons_self
    exact absurd inside (by decide)
  · refine (flagged_unreported_iff (by decide)).mpr (Or.inr fun before after split => ?_)
    have letters : ['#', ' ', 'Σ', 'Κ', 'Ι', 'Π'] = before ++ 'Σ' :: after := split
    rcases before with _ | ⟨a, _ | ⟨b, _ | ⟨c, before⟩⟩⟩
    · cases letters
    · cases letters
    · cases letters
      exact Or.inl (by decide +kernel)
    · obtain ⟨-, rest⟩ := List.cons.inj (List.cons.inj (List.cons.inj letters).2).2
      have inside : 'Σ' ∈ ['Κ', 'Ι', 'Π'] := rest ▸ List.mem_append_right before List.mem_cons_self
      exact absurd inside (by decide)

/-- A capital sigma that ends the flag ends no word in the line, so the two have other letters in lower case. -/
theorem flagged_line_reported :
    let flag := "ΑΣ".toList
    flag ≠ [] ∧ ∃ h ∈ (Scanner.new 8 flag).hits "a.py".toList "py".toList "# TODO ΑΣΕ".toList,
      flag <:+: h.triggeringLine := by
  intro flag
  have kept : (Scanner.new 8 flag).isExempt "# TODO ΑΣΕ".toList = false := by decide +kernel
  obtain ⟨h, mem, trigger⟩ := exists_hit_todo (show '\n' ∉ "ΑΣΕ".toList by decide) kept
  exact ⟨by decide, h, mem, trigger ▸ ⟨"# TODO ".toList, "Ε".toList, rfl⟩⟩

end TodoLedger.Scanner
