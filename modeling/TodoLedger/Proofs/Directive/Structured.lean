import TodoLedger.Proofs.Directive.Mention

/-! Structured comments. A title and a body that are written behind an opener, with blanks around them and a bar between
them, are read back as they are, in every language and in either kind of comment. -/

namespace TodoLedger

open Text (Tight allBlank)

/-! ### Delimiters -/

/-- Openers whose delimiters can be told from the text around them: they neither begin nor end with a blank, no mark
holds a bar, and no mark is the front of another. -/
structure Delimited (openers : List Opener) : Prop where
  tight : ∀ o ∈ openers, Tight o.mark
  no_bar : ∀ o ∈ openers, '|' ∉ o.mark
  closer : ∀ o ∈ openers, ∀ c ∈ o.closer, c ≠ [] ∧ Tight c
  apart : ∀ o ∈ openers, ∀ p ∈ openers, o.mark <+: p.mark → o = p

theorem Language.delimited {l : Language} (hl : l ∈ generic :: table) : Delimited l.openers where
  tight := openers_tight hl
  no_bar := by
    revert l
    decide +kernel
  closer := by
    revert l
    decide +kernel
  apart := by
    revert l
    decide +kernel

namespace Comment

variable {openers : List Opener} {o : Opener} {k : Comment} {b t : Text}

/-- The opener at the front of a text is the only one that fits there. -/
theorem opening?_of_mem (delimited : Delimited openers) (ho : o ∈ openers) (pre : o.mark <+: t) :
    opening? openers t = some o := by
  cases hp : opening? openers t with
  | none => exact absurd (List.isPrefixOf_iff_prefix.mpr pre) (List.find?_eq_none.mp hp o ho)
  | some p =>
    obtain ⟨hp, pre'⟩ := of_opening? hp
    rcases List.prefix_or_prefix_of_prefix pre pre' with front | front
    · rw [delimited.apart o ho p hp front]
    · rw [delimited.apart p hp o ho front]

theorem bodyOf_closed (closer : ∀ c ∈ k.opener.closer, c ≠ [] ∧ Tight c) (hb : allBlank b = true) :
    k.bodyOf (t ++ k.opener.closer.getD [] ++ b) = Text.trim t := by
  rw [bodyOf, Text.trim_append_right hb]
  cases hc : k.opener.closer with
  | none => rw [Option.getD_none, List.append_nil]
  | some c =>
    obtain ⟨hne, tight⟩ := closer c hc
    have strip : Text.stripEnd? c (Text.trimStart t ++ c) = some (Text.trimStart t) :=
      Text.stripEnd?_eq_some_iff.mpr rfl
    -- the closer is cut off before the text is trimmed at its end, so it must be the last thing in it
    simp only [Option.getD_some, tight.trim_append hne, strip]
    rfl

theorem tight_bodyOf (k : Comment) (tail : Text) : Tight (k.bodyOf tail) := by
  have whole := Text.tight_trim tail
  rw [bodyOf]
  cases k.opener.closer with
  | none => exact whole
  | some c =>
    refine Text.tight_trimEnd ?_ whole.head
    cases hs : Text.stripEnd? c (Text.trim tail) with
    | none => exact List.prefix_rfl
    | some u => exact ⟨c, Text.stripEnd?_eq_some_iff.mp hs⟩

/-- Title and body of a comment are what stands before and behind its first bar. -/
theorem cut_of_structured? {s : Structured} (hs : k.structured? = some s) :
    ∃ head tail, k.text = head ++ '|' :: tail ∧ '|' ∉ head ∧ s.title ≠ [] ∧
      s.title = Text.trim (Text.trimStartOf k.opener.mark head) ∧ s.body = k.bodyOf tail := by
  rw [structured?] at hs
  cases hc : Text.cut? '|' k.text with
  | none => simp [hc] at hs
  | some parts =>
    obtain ⟨head, tail⟩ := parts
    obtain ⟨split, no_bar⟩ := Text.cut?_eq_some_iff.mp hc
    simp only [hc] at hs
    split at hs
    · cases hs
    · rename_i some_title
      obtain rfl := Option.some.inj hs
      exact ⟨head, tail, split, no_bar, by simpa using some_title, rfl, rfl⟩

/-- Whatever the comment is, its title is trimmed, not empty and without a bar, and its body is trimmed. -/
theorem of_structured? {s : Structured} (hs : k.structured? = some s) :
    Text.trim s.title = s.title ∧ s.title ≠ [] ∧ '|' ∉ s.title ∧ Text.trim s.body = s.body := by
  obtain ⟨head, tail, -, no_bar, some_title, title, body⟩ := cut_of_structured? hs
  rw [body, (k.tight_bodyOf tail).trim_eq]
  refine ⟨?_, some_title, fun bar => ?_, rfl⟩
  · rw [title, (Text.tight_trim _).trim_eq]
  · rw [title] at bar
    exact no_bar ((Text.dropCopies_suffix _ _ head).subset (Text.mem_of_mem_trim bar))

end Comment

/-! ### Drafts -/

/-- A title and a body as they are written behind an opener, with the blanks around them. -/
structure Draft (mark : Text) where
  title : Text
  body : Text
  beforeTitle : Text
  afterTitle : Text
  beforeBody : Text
  afterBody : Text
  title_ne_nil : title ≠ []
  title_trimmed : Text.trim title = title
  title_no_bar : '|' ∉ title
  body_trimmed : Text.trim body = body
  blank : allBlank beforeTitle ∧ allBlank afterTitle ∧ allBlank beforeBody ∧ allBlank afterBody
  /-- A title that follows its opener directly does not begin with another one. -/
  apart : beforeTitle = [] → ¬mark <+: title

namespace Draft

variable {mark : Text}

/-- The text of a draft from behind its opener to where the comment may be closed. -/
def text (w : Draft mark) : Text :=
  w.beforeTitle ++ w.title ++ w.afterTitle ++ '|' :: (w.beforeBody ++ w.body ++ w.afterBody)

theorem trim_head (w : Draft mark) (tight : Tight mark) (hm : mark ≠ []) :
    Text.trim (Text.trimStartOf mark (mark ++ (w.beforeTitle ++ w.title ++ w.afterTitle))) = w.title := by
  obtain ⟨before, after, -, -⟩ := w.blank
  have apart : ¬mark <+: w.beforeTitle ++ w.title ++ w.afterTitle := by
    cases hb : w.beforeTitle with
    | nil =>
      rw [List.nil_append, tight.prefix_append_iff after]
      exact w.apart hb
    | cons c r =>
      rw [hb] at before
      exact tight.not_prefix_cons hm (Text.allBlank_of_cons before).1
  rw [Text.trimStartOf_append_of_not_prefix hm apart, List.append_assoc, Text.trim_append_left before,
    Text.trim_append_right after, w.title_trimmed]

theorem trim_tail (w : Draft mark) : Text.trim (w.beforeBody ++ w.body ++ w.afterBody) = w.body := by
  obtain ⟨-, -, before, after⟩ := w.blank
  rw [List.append_assoc, Text.trim_append_left before, Text.trim_append_right after, w.body_trimmed]

/-- The comment of a draft: behind its opener, before its closer if it has one, and with blanks at the end. -/
def comment {o : Opener} (w : Draft o.mark) (trail : Text) : Text := o.mark ++ w.text ++ o.closer.getD [] ++ trail

variable {openers : List Opener} {o : Opener} {trail : Text}

theorem mark_prefix_comment (w : Draft o.mark) (trail : Text) : o.mark <+: w.comment trail := by
  rw [comment, List.append_assoc, List.append_assoc]
  exact List.prefix_append _ _

theorem structured? (delimited : Delimited openers) (ho : o ∈ openers) (w : Draft o.mark) (code : Text)
    (ht : allBlank trail = true) : Comment.structured? ⟨code, w.comment trail, o⟩ = some ⟨w.title, w.body⟩ := by
  obtain ⟨before, after, -, -⟩ := w.blank
  have no_bar : '|' ∉ o.mark ++ (w.beforeTitle ++ w.title ++ w.afterTitle) := by
    simp only [List.mem_append, not_or]
    exact ⟨delimited.no_bar o ho, ⟨bar_notMem_blanks before, w.title_no_bar⟩, bar_notMem_blanks after⟩
  have cut : Text.cut? '|' (w.comment trail) = some (o.mark ++ (w.beforeTitle ++ w.title ++ w.afterTitle),
      w.beforeBody ++ w.body ++ w.afterBody ++ o.closer.getD [] ++ trail) := by
    rw [Text.cut?_eq_some_iff]
    exact ⟨by simp [comment, text], no_bar⟩
  have body : Comment.bodyOf ⟨code, w.comment trail, o⟩
      (w.beforeBody ++ w.body ++ w.afterBody ++ o.closer.getD [] ++ trail) = w.body :=
    (Comment.bodyOf_closed (delimited.closer o ho) ht).trans w.trim_tail
  rw [Comment.structured?]
  simp only [cut, w.trim_head (delimited.tight o ho) o.mark_ne_nil, body]
  exact if_neg (by simpa using w.title_ne_nil)

end Draft

namespace Language

variable {l : Language} {o : Opener}

theorem exists_structured (delimited : Delimited l.openers) (ho : o ∈ l.openers) (w : Draft o.mark) (code : Text)
    {trail : Text} (ht : allBlank trail = true) (place : l.CommentAt (code ++ w.comment trail) code.length)
    (mentioned : ∃ k : Keyword, k.StandsIn (w.comment trail)) :
    ∃ d, l.parse? (code ++ w.comment trail) = some d ∧ d.structured = some ⟨w.title, w.body⟩ := by
  have cut : Comment.split? l.openers (code ++ w.comment trail) = some ⟨code, w.comment trail, o⟩ := by
    refine Comment.split?_eq_some_iff.mpr ⟨rfl, ?_, fun i hi => ?_⟩
    · exact Comment.opening?_of_mem delimited ho (w.mark_prefix_comment trail)
    · exact opening?_eq_none_iff.mpr (place.2 i hi)
  have found : (Comment.directive? ⟨code, w.comment trail, o⟩).isSome := Comment.isSome_directive?_iff.mpr mentioned
  obtain ⟨d, hd⟩ := Option.isSome_iff_exists.mp found
  refine ⟨d, Option.bind_eq_some_iff.mpr ⟨_, cut, hd⟩, ?_⟩
  rw [(Comment.of_directive? hd).2, w.structured? delimited ho code ht]

/-- A title and a body that are written in a comment of either kind come back as the title and the body of the
directive, if the comment begins with their opener and mentions a keyword. Conversely a directive has both or neither,
trimmed, and the title is not empty and holds no bar. -/
theorem structured_of_draft {l : Language} (hl : l ∈ generic :: table) :
    (∀ (code : Text) (w : Draft l.lineMarker),
      let comment := l.lineMarker ++ w.text
      l.CommentAt (code ++ comment) code.length → (∃ k : Keyword, k.StandsIn comment) →
        ∃ d, l.parse? (code ++ comment) = some d ∧ d.structured = some ⟨w.title, w.body⟩) ∧
    (∀ b ∈ l.block, ∀ (code : Text) (w : Draft b.start) (trail : Text), allBlank trail = true →
      let comment := b.start ++ w.text ++ b.finish ++ trail
      l.CommentAt (code ++ comment) code.length → (∃ k : Keyword, k.StandsIn comment) →
        ∃ d, l.parse? (code ++ comment) = some d ∧ d.structured = some ⟨w.title, w.body⟩) ∧
    ∀ line d, l.parse? line = some d →
      (d.structured.map (·.title)).isSome = (d.structured.map (·.body)).isSome ∧
      ∀ s ∈ d.structured, Text.trim s.title = s.title ∧ s.title ≠ [] ∧ '|' ∉ s.title ∧ Text.trim s.body = s.body := by
  have delimited := delimited hl
  refine ⟨fun code w => ?_, fun b hb code w trail blank => ?_, fun line d hd => ⟨by simp, fun s hs => ?_⟩⟩
  · have marker : (⟨l.lineMarker, none, l.lineMarker_ne_nil⟩ : Opener) ∈ l.openers := List.mem_cons_self
    have read := exists_structured delimited marker w code (show allBlank [] = true from rfl)
    simpa [Draft.comment] using read
  · have start : (⟨b.start, some b.finish, b.start_ne_nil⟩ : Opener) ∈ l.openers :=
      List.mem_cons_of_mem _ (List.mem_map.mpr ⟨b, Option.mem_toList.mpr hb, rfl⟩)
    exact exists_structured delimited start w code blank
  · obtain ⟨k, -, hd⟩ := Option.bind_eq_some_iff.mp hd
    exact Comment.of_structured? ((Comment.of_directive? hd).2.symm.trans hs)

/-- Two comments in Python, whose block comments end with the mark that opens them: one with an opener in its title and
a bar in its body, and a closed one with nothing but blanks between bar and closer. -/
theorem structured_of_python_drafts :
    let python := ofExtension "py".toList
    let line := "f()  # # TODO|a | b ".toList
    let block := "f()  ''' '''fixme |   ''' ".toList
    python ∈ generic :: table ∧ python.CommentAt line 5 ∧ python.CommentAt block 5 ∧
      (∃ d, python.parse? line = some d ∧ d.structured = some ⟨"# TODO".toList, "a | b".toList⟩) ∧
      ∃ d, python.parse? block = some d ∧ d.structured = some ⟨"'''fixme".toList, []⟩ := by
  intro python line block
  have hl : python ∈ generic :: table := ofExtension_mem _
  have line_place : python.CommentAt line 5 := by decide +kernel
  have block_place : python.CommentAt block 5 := by decide +kernel
  let quotes : BlockComment := { start := "'''".toList, finish := "'''".toList }
  have hb : quotes ∈ python.block := by decide +kernel
  let first : Draft python.lineMarker := {
    title := "# TODO".toList, body := "a | b".toList
    beforeTitle := [' '], afterTitle := [], beforeBody := [], afterBody := [' ']
    title_ne_nil := by decide, title_trimmed := by decide, title_no_bar := by decide, body_trimmed := by decide
    blank := by decide, apart := by decide }
  let second : Draft quotes.start := {
    title := "'''fixme".toList, body := []
    beforeTitle := [' '], afterTitle := [' '], beforeBody := "   ".toList, afterBody := []
    title_ne_nil := by decide, title_trimmed := by decide, title_no_bar := by decide, body_trimmed := by decide
    blank := by decide, apart := by decide }
  obtain ⟨of_line, of_block, -⟩ := structured_of_draft hl
  refine ⟨hl, line_place, block_place, ?_, ?_⟩
  · exact of_line "f()  ".toList first line_place ⟨.todo, by decide +kernel⟩
  · exact of_block quotes hb "f()  ".toList second [' '] (by decide) block_place ⟨.fixme, by decide +kernel⟩

end Language

end TodoLedger
