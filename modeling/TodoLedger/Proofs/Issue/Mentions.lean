import Mathlib.Data.List.Infix
import TodoLedger.Issue
import TodoLedger.Proofs.Scan.Numbered
import TodoLedger.Proofs.Text.Cut

/-! Mentions in issues. Behind each `@` of a heading stands a mark that keeps it from notifying anyone. The marks can be
taken out again, also from a text that held such marks before, so no two headings become one. The other parts of an issue
are left as they are. -/

namespace TodoLedger

namespace Text

variable {old new t : Text} {c : Char}

/-- Every `old` becomes `new`, from left to right; the first `skip` characters belong to the last one that was found. -/
def replaceAfter (old new : Text) : (skip : Nat) → Text → Text
  | _, [] => []
  | skip + 1, _ :: r => replaceAfter old new skip r
  | 0, c :: r =>
    if old.isPrefixOf (c :: r) then new ++ replaceAfter old new (old.length - 1) r
    else c :: replaceAfter old new 0 r

def replace (old new t : Text) : Text := replaceAfter old new 0 t

theorem replaceAfter_append (old new front t : Text) :
    replaceAfter old new front.length (front ++ t) = replace old new t := by
  induction front with
  | nil => rfl
  | cons c front ih => exact ih

theorem replace_append (some_text : old ≠ []) (new t : Text) :
    replace old new (old ++ t) = new ++ replace old new t := by
  rcases old with _ | ⟨c, r⟩
  · exact absurd rfl some_text
  · have here : (c :: r).isPrefixOf (c :: (r ++ t)) = true := List.isPrefixOf_iff_prefix.mpr ⟨t, rfl⟩
    rw [List.cons_append, replace, replaceAfter, if_pos here]
    exact congrArg (new ++ ·) (replaceAfter_append (c :: r) new r t)

theorem replace_cons (elsewhere : ¬old <+: c :: t) (new : Text) :
    replace old new (c :: t) = c :: replace old new t := by
  rw [replace, replaceAfter, if_neg (by simpa using elsewhere), replace]

end Text

/-! ### Marks behind mentions -/

section Mentions
variable {t u : Text} {c : Char}

/-- What keeps the `@` before it from notifying anyone. -/
def muteMark : Text := "<!-- -->".toList

/-- A text without live mentions. -/
def Muted (t : Text) : Prop := ∀ front rest, t = front ++ '@' :: rest → muteMark <+: rest

theorem Muted.append_left (muted : Muted t) (plain : '@' ∉ u) : Muted (u ++ t) := by
  intro front rest split
  rcases List.append_eq_append_iff.mp split with ⟨between, -, behind⟩ | ⟨between, inside, behind⟩
  · exact muted between rest behind
  · rcases between with _ | ⟨d, between⟩
    · exact muted [] rest behind.symm
    · obtain rfl : '@' = d := (List.cons.inj behind).1
      exact absurd (inside ▸ List.mem_append_right _ List.mem_cons_self) plain

theorem Muted.mention (muted : Muted t) : Muted ('@' :: (muteMark ++ t)) := by
  intro front rest split
  rcases front with _ | ⟨d, front⟩
  · exact ⟨t, (List.cons.inj split).2⟩
  · exact muted.append_left (by decide) front rest (List.cons.inj split).2

theorem sanitizeMentions_at (t : Text) : sanitizeMentions ('@' :: t) = '@' :: (muteMark ++ sanitizeMentions t) := rfl

theorem sanitizeMentions_cons (other : c ≠ '@') (t : Text) : sanitizeMentions (c :: t) = c :: sanitizeMentions t := by
  rw [sanitizeMentions, Text.substitute, List.flatMap_cons, if_neg other]
  rfl

theorem muted_sanitizeMentions (t : Text) : Muted (sanitizeMentions t) := by
  induction t with
  | nil => exact fun front rest split => by cases front <;> cases split
  | cons c t ih =>
    by_cases mention : c = '@'
    · rw [mention, sanitizeMentions_at]
      exact ih.mention
    · rw [sanitizeMentions_cons mention]
      exact ih.append_left (u := [c]) (by simpa using Ne.symm mention)

/-- Every mark behind an `@` is taken out. -/
def restoreMentions (t : Text) : Text := Text.replace ('@' :: muteMark) ['@'] t

theorem restoreMentions_sanitizeMentions (t : Text) : restoreMentions (sanitizeMentions t) = t := by
  induction t with
  | nil => rfl
  | cons c t ih =>
    rw [restoreMentions] at ih ⊢
    by_cases mention : c = '@'
    · rw [mention, sanitizeMentions_at, ← List.cons_append, Text.replace_append (List.cons_ne_nil _ _), ih,
        List.singleton_append]
    · have elsewhere : ¬('@' :: muteMark) <+: c :: sanitizeMentions t := fun same =>
        mention (List.cons_prefix_cons.mp same).1.symm
      rw [sanitizeMentions_cons mention, Text.replace_cons elsewhere, ih]

theorem sanitizeMentions_inj (same : sanitizeMentions t = sanitizeMentions u) : t = u := by
  rw [← restoreMentions_sanitizeMentions t, same, restoreMentions_sanitizeMentions]

theorem mem_of_mem_sanitizeMentions (mem : c ∈ sanitizeMentions t) : c ∈ t ∨ c ∈ muteMark := by
  obtain ⟨d, inside, mem⟩ := List.mem_flatMap.mp mem
  split at mem
  · rename_i mention
    rcases (List.mem_cons.mp mem : c = '@' ∨ c ∈ muteMark) with here | mark
    · exact Or.inl (here.trans mention.symm ▸ inside)
    · exact Or.inr mark
  · exact Or.inl (List.mem_singleton.mp mem ▸ inside)

end Mentions

/-! ### The parts of an issue -/

namespace Hit

variable {h : Hit} {line : Text}

theorem heading_eq (h : Hit) : h.heading = if h.body?.getD [] = [] then h.display else h.body?.getD [] := by
  rw [heading]
  rcases h.body? with _ | _ | ⟨c, body⟩ <;> rfl

/-- Each line of the context stands in the fence behind a tab. -/
theorem infix_numberedContext (mem : line ∈ h.context) : '\t' :: line ++ ['\n'] <:+: h.numberedContext := by
  obtain ⟨place, inside⟩ := List.getElem?_of_mem mem
  have row : h.gutter h.gutterWidth place ++ '\t' :: line ∈ h.rows :=
    List.mem_of_getElem? (getElem?_rows.mpr ⟨line, inside, rfl⟩)
  have ended : '\t' :: line ++ ['\n'] <:+: (h.gutter h.gutterWidth place ++ '\t' :: line) ++ ['\n'] :=
    ⟨h.gutter h.gutterWidth place, [], by simp⟩
  rw [numberedContext_eq]
  refine ended.trans (List.IsInfix.trans ?_ (List.prefix_append _ _).isInfix)
  rw [List.flatMap_def]
  exact List.infix_of_mem_flatten (List.mem_map.mpr ⟨_, List.mem_cons_of_mem _ row, rfl⟩)

/-- The first line of an issue is its heading, if that is one line. -/
theorem cut?_body_payload (one_line : '\n' ∉ h.heading) (r : Repository) : ∃ rest,
    Text.cut? '\n' (h.payload r).body = some ("## ".toList ++ sanitizeMentions h.heading, rest) := by
  refine ⟨'\n' :: (h.numberedContext ++ ("\n\nReference: <a href=\"".toList ++ (r.fileUrl h.file ++ ("\">".toList ++
    (h.file ++ "</a>".toList))))), Text.cut?_eq_some_iff.mpr ⟨?_, fun feed => ?_⟩⟩
  · have blank : "\n\n".toList = '\n' :: ['\n'] := rfl
    simp only [payload, blank, List.append_assoc, List.cons_append, List.nil_append]
  · rcases List.mem_append.mp feed with start | feed
    · revert start
      decide
    · exact (mem_of_mem_sanitizeMentions feed).elim one_line (by decide)

theorem heading_of_body_eq {h' : Hit} {r r' : Repository} (one_line : '\n' ∉ h.heading) (one_line' : '\n' ∉ h'.heading)
    (same : (h.payload r).body = (h'.payload r').body) : h.heading = h'.heading := by
  obtain ⟨rest, cut⟩ := cut?_body_payload one_line r
  obtain ⟨rest', cut'⟩ := cut?_body_payload one_line' r'
  rw [same, cut'] at cut
  have first : "## ".toList ++ sanitizeMentions h'.heading = "## ".toList ++ sanitizeMentions h.heading :=
    (Prod.mk.inj (Option.some.inj cut)).1
  exact (sanitizeMentions_inj (List.append_cancel_left first)).symm

/-- Every `@` is broken by a mark behind it, and taking out the marks gives back any text. In an issue only the heading, the
body of the directive or else the hit in one line, is broken so: no mention in it is live, and different headings stay
different, so that issues with different headings in one line each differ. The context with its lines and the path are
in the issue as they are. -/
theorem heading_of_payload :
    (∀ t, Muted (sanitizeMentions t) ∧ restoreMentions (sanitizeMentions t) = t) ∧
    let heading := fun h : Hit => if h.body?.getD [] = [] then h.display else h.body?.getD []
    let shown := fun h : Hit => sanitizeMentions (heading h)
    (∀ (h : Hit) (r : Repository),
      (h.payload r).body = "## ".toList ++ shown h ++ "\n\n".toList ++ h.numberedContext ++
        "\n\nReference: <a href=\"".toList ++ r.fileUrl h.file ++ "\">".toList ++ h.file ++ "</a>".toList ∧
      Muted (shown h) ∧ restoreMentions (shown h) = heading h ∧
      (∀ line ∈ h.context, '\t' :: line ++ ['\n'] <:+: h.numberedContext) ∧ h.file <:+ r.fileUrl h.file) ∧
    ∀ (h h' : Hit) (r r' : Repository), heading h ≠ heading h' →
      shown h ≠ shown h' ∧
      ('\n' ∉ heading h → '\n' ∉ heading h' → (h.payload r).body ≠ (h'.payload r').body) := by
  refine ⟨fun t => ⟨muted_sanitizeMentions t, restoreMentions_sanitizeMentions t⟩, ?_⟩
  intro heading shown
  have same : heading = Hit.heading := funext fun h => h.heading_eq.symm
  refine ⟨fun h r => ⟨?_, muted_sanitizeMentions _, restoreMentions_sanitizeMentions _, ?_, ?_⟩, ?_⟩
  · dsimp only [shown]
    rw [same]
    rfl
  · exact fun line mem => infix_numberedContext mem
  · exact List.suffix_append _ _
  · intro h h' r r' differ
    refine ⟨fun equal => differ (sanitizeMentions_inj equal), fun one_line one_line' equal => differ ?_⟩
    rw [same] at one_line one_line' ⊢
    exact heading_of_body_eq one_line one_line' equal

end Hit
end TodoLedger
