import TodoLedger.Proofs.Glob.Reading
import TodoLedger.Proofs.Text.Encoding

/-! Patterns without wildcards. Such a pattern is read as its characters one by one. It matches the path that it spells, and
with all below it the paths that begin so and go on behind a slash. -/

namespace TodoLedger

/-! ### Fronts of texts -/

namespace Text

variable {s t : Text}

theorem utf8_inj (same : utf8 s = utf8 t) : s = t :=
  Option.some.inj ((ofUtf8?_eq_some_iff.mpr rfl).symm.trans (ofUtf8?_eq_some_iff.mpr same))

/-- The bytes of a text begin those of another only where the text begins the other. -/
theorem utf8_prefix_iff : utf8 s <+: utf8 t ↔ s <+: t := by
  constructor
  · intro front
    induction s generalizing t with
    | nil => exact List.nil_prefix
    | cons c s ih =>
      obtain ⟨rest, whole⟩ := front
      rw [utf8, List.flatMap_cons, List.append_assoc] at whole
      cases t with
      | nil => exact absurd (List.append_eq_nil_iff.mp whole).1 String.utf8EncodeChar_ne_nil
      | cons d t =>
        rw [utf8, List.flatMap_cons] at whole
        obtain rfl := utf8EncodeChar_append_inj whole
        exact List.cons_prefix_cons.mpr ⟨rfl, ih ⟨rest, List.append_cancel_left whole⟩⟩
  · rintro ⟨rest, rfl⟩
    exact ⟨utf8 rest, (utf8_append s rest).symm⟩

end Text

namespace Glob

/-- The characters by which a pattern stands for more than it spells. -/
def wildcards : List Char := ['*', '?', '[', ']', '\x7b', '\x7d']

variable {t path : Text} {p : Pattern} {r s : Bytes}

/-! ### Reading -/

namespace Draft

variable {d : Draft} {c : Char}

/-- Outside groups a comma is read as itself, as what is no special character is. -/
theorem feed_of_plain (plain : d.reading = .plain) (closed : d.groups = []) (tame : c ∉ wildcards) (other : c ≠ '\\') :
    d.feed c = .ok ({ d with reading := .plain, last := some c }.push (.literal c)) := by
  rw [feed, plain]
  by_cases comma : c = ','
  · obtain ⟨reading, last, parts, groups⟩ := d
    obtain rfl : groups = [] := closed
    obtain rfl := comma
    rfl
  · refine feedPlain_of_ordinary ?_
    simp only [wildcards, special, List.mem_cons, List.not_mem_nil, or_false, not_or] at tame ⊢
    exact ⟨tame.2.1, tame.1, tame.2.2.1, tame.2.2.2.2.1, tame.2.2.2.2.2, comma, other⟩

theorem foldlM_of_plain (plain : d.reading = .plain) (closed : d.groups = []) (tame : ∀ c ∈ t, c ∉ wildcards)
    (slashed : '\\' ∉ t) : ∃ e, t.foldlM feed d = .ok e ∧ e.reading = .plain ∧ e.groups = [] ∧
      e.parts.reverse = d.parts.reverse ++ t.map Token.literal := by
  induction t generalizing d with
  | nil => exact ⟨d, rfl, plain, closed, (List.append_nil _).symm⟩
  | cons c t ih =>
    obtain ⟨here, later⟩ := List.forall_mem_cons.mp tame
    have other : c ≠ '\\' := fun same => slashed (same ▸ List.mem_cons_self)
    obtain ⟨e, read, plain', closed', parts⟩ :=
      ih (d := { d with reading := .plain, last := some c }.push (.literal c)) rfl closed later
        (List.not_mem_of_not_mem_cons slashed)
    refine ⟨e, ?_, plain', closed', ?_⟩
    · rw [List.foldlM_cons, feed_of_plain plain closed here other]
      exact read
    · rw [parts, List.map_cons, push, List.reverse_cons, List.append_assoc]
      rfl

end Draft

namespace Pattern

theorem readTokens_of_tame (tame : ∀ c ∈ t, c ∉ wildcards) (slashed : '\\' ∉ t) :
    readTokens t = .ok (t.map Token.literal) ∧
      readTokens (t ++ "/**".toList) = .ok (t.map Token.literal ++ [.everythingBelow]) := by
  obtain ⟨e, read, plain, closed, parts⟩ := Draft.foldlM_of_plain (d := .start) rfl rfl tame slashed
  have parts : e.parts.reverse = t.map Token.literal := parts
  constructor
  · rw [readTokens, read, ok_bind, Draft.finish_of_plain plain, closed, parts]
    rfl
  · rw [readTokens, List.foldlM_append, read, ← parts]
    exact Draft.finish_slash_stars plain closed

end Pattern

/-! ### Matching -/

theorem mem_sequenceRests_literals : r ∈ sequenceRests (t.map Token.literal) s ↔ s = Text.utf8 t ++ r := by
  induction t generalizing s with
  | nil => rw [List.map_nil, sequenceRests, List.mem_singleton, Text.utf8, List.flatMap_nil, List.nil_append, eq_comm]
  | cons c t ih =>
    have here : ∀ m, m ∈ (Token.literal c).rests s ↔ Text.utf8 [c] ++ m = s := fun m => by
      rw [Token.rests, Option.mem_toList, List.isPrefixOf?_eq_some_iff_append_eq]
    have both : Text.utf8 (c :: t) = Text.utf8 [c] ++ Text.utf8 t := Text.utf8_append [c] t
    simp only [List.map_cons, mem_sequenceRests_cons, here, ih, both, List.append_assoc]
    constructor
    · rintro ⟨m, rfl, rfl⟩
      rfl
    · rintro rfl
      exact ⟨_, rfl, rfl⟩

theorem Pattern.isMatch_literals (tokens : p.tokens = t.map Token.literal) : p.isMatch path = true ↔ path = t := by
  have other : p.tokens ≠ [.leadingDirs] := by
    rw [tokens]
    cases t <;> simp
  rw [Pattern.isMatch_iff, or_iff_right other, tokens, mem_sequenceRests_literals, List.append_nil]
  exact ⟨Text.utf8_inj, congrArg Text.utf8⟩

theorem Pattern.isMatch_below_literals (tokens : p.tokens = t.map Token.literal ++ [.everythingBelow]) :
    p.isMatch path = true ↔ t ++ ['/'] <+: path := by
  have other : p.tokens ≠ [.leadingDirs] := by
    rw [tokens]
    intro same
    have last := congrArg List.getLast? same
    rw [List.getLast?_concat] at last
    cases last
  have front : Text.utf8 (t ++ ['/']) = Text.utf8 t ++ [slash] := Text.utf8_append t ['/']
  rw [Pattern.isMatch_iff, or_iff_right other, tokens, nil_mem_sequenceRests_below, ← Text.utf8_prefix_iff, front]
  simp only [mem_sequenceRests_literals]
  constructor
  · rintro ⟨rest, whole⟩
    exact ⟨rest, by rw [whole, List.append_assoc]; rfl⟩
  · rintro ⟨rest, whole⟩
    exact ⟨rest, by rw [← whole, List.append_assoc]; rfl⟩

/-! ### Sets -/

/-- Whether a pattern is a path, alone or with all below it. -/
def Pattern.IsPlain (p : Pattern) : Prop :=
  ∃ t : Text, p.tokens = t.map .literal ∨ p.tokens = t.map .literal ++ [.everythingBelow]

/-- Whether a builder makes every set of plain patterns. Such patterns are looked up by their characters; none of them is
compiled to an expression that could be nested too deep or be too large. -/
def SetBuilder.TakesPlain (build : SetBuilder) : Prop :=
  ∀ ps, (∀ p ∈ ps, p.IsPlain) → build ps = .ok ()

end Glob
end TodoLedger
