import Mathlib.Data.List.Find
import TodoLedger.Directive
import TodoLedger.Proofs.Text.Cut
import TodoLedger.Proofs.Text.Trim

/-! A directive and its line. The grammar cuts a line into code and comment without changing either, and what it reads
in the comment does not depend on the blanks before and after the line. -/

namespace TodoLedger

open Text (Tight allBlank)

/-! ### Keywords -/

namespace Keyword

variable {b t word : Text} {c : Char}

/-- No blank is a letter of a keyword in any letter case. -/
theorem toLower_notMem_word (k : Keyword) (hc : Text.isBlank c = true) : c.toLower ∉ k.word := by
  refine Text.of_isBlank (P := fun c => c.toLower ∉ k.word) ?_ hc
  cases k <;> decide +kernel

theorem dropWord?_append (apart : ∀ c ∈ b, c.toLower ∉ word) :
    dropWord? word (t ++ b) = (dropWord? word t).map (· ++ b) := by
  induction word generalizing t with
  | nil => rfl
  | cons w word ih =>
    cases t with
    | nil =>
      cases b with
      | nil => rfl
      | cons c r =>
        have other : c.toLower ≠ w := fun same => apart c List.mem_cons_self (same ▸ List.mem_cons_self)
        simp [dropWord?, other]
    | cons c r =>
      have later := ih (t := r) fun c hc same => apart c hc (List.mem_cons_of_mem _ same)
      by_cases hw : c.toLower = w <;> simp [dropWord?, hw, later]

theorem leads_append (k : Keyword) (hb : allBlank b = true) : k.leads (t ++ b) = k.leads t := by
  have whole : dropWord? k.word (t ++ b) = (dropWord? k.word t).map (· ++ b) :=
    dropWord?_append fun c hc => k.toLower_notMem_word (Text.isBlank_of_mem hb hc)
  rw [leads, leads, whole]
  cases dropWord? k.word t with
  | none => rfl
  | some rest => simp [Text.startsInWord_append hb]

theorem leads_blanks (k : Keyword) (hb : allBlank b = true) : k.leads b = false := by
  have empty : k.leads [] = false := by cases k <;> rfl
  rw [← List.nil_append b, k.leads_append hb, empty]

theorem mentionedAfter_blanks (k : Keyword) (hb : allBlank b = true) (inWord : Bool) :
    k.mentionedAfter inWord b = false := by
  induction b generalizing inWord with
  | nil => rfl
  | cons c r ih =>
    rw [mentionedAfter, k.leads_blanks hb, ih (Text.allBlank_of_cons hb).2, Bool.and_false, Bool.or_false]

theorem mentionedAfter_append (k : Keyword) (hb : allBlank b = true) (inWord : Bool) :
    k.mentionedAfter inWord (t ++ b) = k.mentionedAfter inWord t := by
  induction t generalizing inWord with
  | nil => exact k.mentionedAfter_blanks hb inWord
  | cons c r ih =>
    rw [List.cons_append, mentionedAfter, mentionedAfter, ih, ← List.cons_append, k.leads_append hb]

end Keyword

theorem KeywordSet.mentionedIn_append {b t : Text} (hb : allBlank b = true) : mentionedIn (t ++ b) = mentionedIn t := by
  simp only [mentionedIn, Keyword.mentionedIn, Keyword.mentionedAfter_append _ hb]

/-! ### Labels -/

section Labels
variable {b t : Text} {c : Char}

theorem ne_of_isBlank (hc : Text.isBlank c = true) : c ≠ '#' ∧ c ≠ '|' :=
  Text.of_isBlank (P := fun c => c ≠ '#' ∧ c ≠ '|') (by decide) hc

theorem bar_notMem_blanks (hb : allBlank b = true) : '|' ∉ b :=
  fun bar => (ne_of_isBlank (Text.isBlank_of_mem hb bar)).2 rfl

theorem labelWords_blanks (hb : allBlank b = true) : labelWords b = [] := by
  induction b with
  | nil => rfl
  | cons c r ih =>
    obtain ⟨hc, hr⟩ := Text.allBlank_of_cons hb
    rw [labelWords, if_neg (ne_of_isBlank hc).1, ih hr]

theorem labelWords_append (hb : allBlank b = true) : labelWords (t ++ b) = labelWords t := by
  induction t with
  | nil => exact labelWords_blanks hb
  | cons c r ih =>
    have word : (r ++ b).takeWhile (fun d => !(Text.isBlank d || d == '#')) =
        r.takeWhile fun d => !(Text.isBlank d || d == '#') :=
      Text.takeWhile_append_of_blank (fun d hd => by simp [hd]) hb
    rw [List.cons_append, labelWords, labelWords, word, ih]

theorem labels?_append (hb : allBlank b = true) : labels? (t ++ b) = labels? t := by
  rw [labels?, labels?, labelWords_append hb]

end Labels

/-! ### The comment of a line -/

namespace Comment

variable {openers : List Opener} {o : Opener} {b t line : Text} {k : Comment}

theorem of_opening? (ho : opening? openers t = some o) : o ∈ openers ∧ o.mark <+: t := by
  have pre : o.mark.isPrefixOf t = true := List.find?_some (p := fun o : Opener => o.mark.isPrefixOf t) ho
  exact ⟨List.mem_of_find?_eq_some ho, List.isPrefixOf_iff_prefix.mp pre⟩

/-- A cut line is made of its code and its comment, which begins with its opener. -/
theorem of_split? (hk : split? openers line = some k) :
    k.code ++ k.text = line ∧ k.opener ∈ openers ∧ k.opener.mark <+: k.text := by
  induction line generalizing k with
  | nil => simp [split?] at hk
  | cons c r ih =>
    rw [split?] at hk
    cases ho : opening? openers (c :: r) with
    | some o =>
      simp only [ho, Option.some.injEq] at hk
      subst hk
      exact ⟨rfl, of_opening? ho⟩
    | none =>
      simp only [ho, Option.map_eq_some_iff] at hk
      obtain ⟨k', hk', rfl⟩ := hk
      obtain ⟨hc, mem, pre⟩ := ih hk'
      exact ⟨by rw [List.cons_append, hc], mem, pre⟩

section Blanks
variable (tight : ∀ o ∈ openers, Tight o.mark)
include tight

theorem opening?_append (hb : allBlank b = true) : opening? openers (t ++ b) = opening? openers t :=
  List.find?_congr fun o ho => (tight o ho).isPrefixOf_append hb

theorem opening?_of_isBlank {c : Char} (hc : Text.isBlank c = true) : opening? openers (c :: t) = none := by
  refine List.find?_eq_none.mpr fun o ho pre => ?_
  exact (tight o ho).not_prefix_cons o.mark_ne_nil hc (List.isPrefixOf_iff_prefix.mp pre)

theorem split?_append_left (hb : allBlank b = true) :
    split? openers (b ++ t) = (split? openers t).map fun k => { k with code := b ++ k.code } := by
  induction b with
  | nil => simp
  | cons c r ih =>
    obtain ⟨hc, hr⟩ := Text.allBlank_of_cons hb
    rw [List.cons_append, split?, opening?_of_isBlank tight hc, ih hr, Option.map_map]
    rfl

theorem split?_append_right (hb : allBlank b = true) :
    split? openers (t ++ b) = (split? openers t).map fun k => { k with text := k.text ++ b } := by
  induction t with
  | nil =>
    have none_here := split?_append_left tight (t := []) hb
    simpa [split?] using none_here
  | cons c r ih =>
    rw [List.cons_append, split?, split?, ← List.cons_append, opening?_append tight hb, ih]
    cases opening? openers (c :: r) with
    | some o => rfl
    | none => simp only [Option.map_map]; rfl

end Blanks

/-- A bar is no blank, so blanks after the comment only end up in the body, which is trimmed. -/
theorem structured?_append (hb : allBlank b = true) : structured? { k with text := k.text ++ b } = k.structured? := by
  rw [structured?, structured?]
  cases ht : Text.cut? '|' k.text with
  | none =>
    have none_after : Text.cut? '|' (k.text ++ b) = none := by
      rw [Text.cut?_eq_none_iff, List.mem_append, not_or]
      exact ⟨Text.cut?_eq_none_iff.mp ht, bar_notMem_blanks hb⟩
    rw [none_after]
  | some parts =>
    obtain ⟨head, tail⟩ := parts
    obtain ⟨split, apart⟩ := Text.cut?_eq_some_iff.mp ht
    have cut : Text.cut? '|' (k.text ++ b) = some (head, tail ++ b) := by
      rw [Text.cut?_eq_some_iff, split, List.append_assoc, List.cons_append]
      exact ⟨rfl, apart⟩
    have body : bodyOf { k with text := k.text ++ b } (tail ++ b) = k.bodyOf tail := by
      rw [bodyOf, bodyOf, Text.trim_append_right hb]
    rw [cut]
    simp only [body]

theorem labels?_content_append (tight : Tight k.opener.mark) (pre : k.opener.mark <+: k.text) (hb : allBlank b = true) :
    labels? (content { k with text := k.text ++ b }) = labels? k.content := by
  obtain ⟨rest, whole⟩ := pre
  have inner : Text.trimStartOf k.opener.mark ((k.text ++ b).drop k.opener.mark.length) =
      Text.trimStartOf k.opener.mark (k.text.drop k.opener.mark.length) ++ b := by
    rw [← whole, List.append_assoc, List.drop_left, List.drop_left, tight.trimStartOf_append k.opener.mark_ne_nil hb]
  rw [content, content]
  simp only [inner]
  cases k.opener.closer with
  | none => exact labels?_append hb
  | some closer =>
    simp only [Text.trimEnd_append_right hb]
    cases Text.stripEnd? closer _ with
    | some stripped => rfl
    | none => exact labels?_append hb

end Comment

/-! ### The directive of a line -/

namespace Directive

/-- What a directive says, its line aside. -/
def said (d : Directive) : KeywordSet × Option Structured × Option (List Text) := (d.keywords, d.structured, d.labels)

theorem of_said_eq {d e : Directive} (h : d.said = e.said) :
    d.keywords = e.keywords ∧ d.structured = e.structured ∧ d.labels = e.labels := by
  simpa [said] using h

end Directive

namespace Comment

variable {b : Text} {k : Comment}

/-- What a directive says is read in its comment. -/
theorem said_directive? (k : Comment) : k.directive?.map Directive.said =
    if (KeywordSet.mentionedIn k.text).isEmpty then none
    else some (KeywordSet.mentionedIn k.text, k.structured?, labels? (match k.structured? with
      | some s => s.body
      | none => k.content)) := by
  rw [directive?]
  split <;> rfl

/-- The code before the comment has no say. -/
theorem said_congr {k' : Comment} (text : k.text = k'.text) (opener : k.opener = k'.opener) :
    k.directive?.map Directive.said = k'.directive?.map Directive.said := by
  obtain ⟨code, text', opener'⟩ := k
  cases text
  cases opener
  rw [said_directive?, said_directive?]
  rfl

theorem said_append (tight : Tight k.opener.mark) (pre : k.opener.mark <+: k.text) (hb : allBlank b = true) :
    (directive? { k with text := k.text ++ b }).map Directive.said = k.directive?.map Directive.said := by
  rw [said_directive?, said_directive?, structured?_append hb]
  simp only [KeywordSet.mentionedIn_append hb]
  cases k.structured? with
  | some s => rfl
  | none => simp only [labels?_content_append tight pre hb]

end Comment

namespace Grammar

variable {g : Grammar} {line : Text} {d : Directive}

/-- A directive keeps its line as it is. -/
theorem line_of_parse? (hd : g.parse? line = some d) : d.line = line := by
  obtain ⟨k, hk, hd⟩ := Option.bind_eq_some_iff.mp hd
  rw [Comment.directive?] at hd
  split at hd
  · cases hd
  · obtain rfl := Option.some.inj hd
    exact (Comment.of_split? hk).1

/-- What the directive of a line says is what it says without the blanks around the line. -/
theorem said_trim (tight : ∀ o ∈ g.openers, Tight o.mark) (line : Text) :
    (g.parse? line).map Directive.said = (g.parse? (Text.trim line)).map Directive.said := by
  obtain ⟨lead, trail, hl, ht, split⟩ := Text.exists_blanks_around line
  have cut : Comment.split? g.openers line = (Comment.split? g.openers (Text.trim line)).map fun k =>
      { k with code := lead ++ k.code, text := k.text ++ trail } := by
    rw [congrArg (Comment.split? g.openers) split, Comment.split?_append_left tight hl,
      Comment.split?_append_right tight ht, Option.map_map]
    rfl
  rw [parse?, parse?, cut]
  cases hk : Comment.split? g.openers (Text.trim line) with
  | none => rfl
  | some k =>
    obtain ⟨-, mem, pre⟩ := Comment.of_split? hk
    calc (Comment.directive? { k with code := lead ++ k.code, text := k.text ++ trail }).map Directive.said
        = (Comment.directive? { k with text := k.text ++ trail }).map Directive.said := Comment.said_congr rfl rfl
      _ = k.directive?.map Directive.said := Comment.said_append (tight _ mem) pre ht

end Grammar

/-! ### The openers of the languages -/

namespace Language

theorem ofExtension_mem (extension : Text) : ofExtension extension ∈ generic :: table := by
  rw [ofExtension]
  cases hl : (extensions.lookup (Text.lowerAscii (extension.dropWhile (· == '.')))).bind byId? with
  | none => exact List.mem_cons_self
  | some l =>
    obtain ⟨id, -, hl⟩ := Option.bind_eq_some_iff.mp hl
    rw [byId?] at hl
    split at hl
    · cases hl
      exact List.mem_cons_self
    · exact List.mem_cons_of_mem _ (List.mem_of_find?_eq_some hl)

/-- No opener begins or ends with a blank, though one has a blank inside. -/
theorem openers_tight {l : Language} (hl : l ∈ generic :: table) : ∀ o ∈ l.openers, Tight o.mark := by
  revert l
  decide +kernel

theorem said_trim (extension line : Text) : let l := ofExtension extension
    (l.parse? line).map Directive.said = (l.parse? (Text.trim line)).map Directive.said :=
  Grammar.said_trim (openers_tight (ofExtension_mem extension)) line

end Language

end TodoLedger
