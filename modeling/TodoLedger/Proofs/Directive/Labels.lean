import TodoLedger.Proofs.Directive.Structured
import TodoLedger.Proofs.Text.Order

/-! Labels. The labels of a directive are the words behind a `#` in one part of its comment, keywords aside: in the body
if there is one, and otherwise in what the delimiters of the comment enclose. The code, the title and a closer at the end
of the line are no part of that. -/

namespace TodoLedger

open Text (Tight allBlank)

variable {t word : Text} {c : Char}

/-! ### Words behind a `#` -/

/-- A text stands in another directly behind a `#` and reaches up to a blank, another `#` or the end. -/
def TaggedIn (word t : Text) : Prop :=
  ∃ before after, t = before ++ '#' :: (word ++ after) ∧ word ≠ [] ∧
    (∀ c ∈ word, Text.isBlank c = false ∧ c ≠ '#') ∧ ∀ c ∈ after.head?, Text.isBlank c = true ∨ c = '#'

/-- A character that a label may hold. -/
def inLabel (c : Char) : Bool := !(Text.isBlank c || c == '#')

theorem inLabel_iff : inLabel c = true ↔ Text.isBlank c = false ∧ c ≠ '#' := by
  simp [inLabel]

theorem inLabel_eq_false_iff : inLabel c = false ↔ Text.isBlank c = true ∨ c = '#' := by
  simp only [inLabel, Bool.not_eq_false', Bool.or_eq_true, beq_iff_eq]

theorem Text.takeWhile_eq_iff {p : Char → Bool} : t.takeWhile p = word ↔
    ∃ after, t = word ++ after ∧ (∀ c ∈ word, p c = true) ∧ ∀ c ∈ after.head?, p c = false := by
  constructor
  · rintro rfl
    refine ⟨t.dropWhile p, List.takeWhile_append_dropWhile.symm, fun c hc => List.mem_takeWhile_imp hc, fun c hc => ?_⟩
    have stop := List.head?_dropWhile_not p t
    rw [hc] at stop
    simpa using stop
  · rintro ⟨after, rfl, all, stop⟩
    rw [List.takeWhile_append_of_pos all]
    cases after with
    | nil => rw [List.takeWhile_nil, List.append_nil]
    | cons c after => rw [List.takeWhile_cons_of_neg (by simp [stop c rfl]), List.append_nil]

theorem labelWords_cons : labelWords (c :: t) =
    if c = '#' ∧ t.takeWhile inLabel ≠ [] then t.takeWhile inLabel :: labelWords t else labelWords t := by
  have same : (t.takeWhile fun d => !(Text.isBlank d || d == '#')) = t.takeWhile inLabel := rfl
  rw [labelWords, same, ite_and]
  cases t.takeWhile inLabel <;> rfl

theorem taggedIn_cons : TaggedIn word (c :: t) ↔
    (c = '#' ∧ t.takeWhile inLabel = word ∧ word ≠ []) ∨ TaggedIn word t := by
  simp only [Text.takeWhile_eq_iff, inLabel_iff, inLabel_eq_false_iff]
  constructor
  · rintro ⟨before, after, split, some_word, inside, stop⟩
    cases before with
    | nil =>
      obtain ⟨rfl, rfl⟩ := List.cons.inj split
      exact Or.inl ⟨rfl, ⟨after, rfl, inside, stop⟩, some_word⟩
    | cons d before =>
      obtain ⟨rfl, rfl⟩ := List.cons.inj split
      exact Or.inr ⟨before, after, rfl, some_word, inside, stop⟩
  · rintro (⟨rfl, ⟨after, rfl, inside, stop⟩, some_word⟩ | ⟨before, after, rfl, tagged⟩)
    · exact ⟨[], after, rfl, some_word, inside, stop⟩
    · exact ⟨c :: before, after, rfl, tagged⟩

theorem mem_labelWords_iff : word ∈ labelWords t ↔ TaggedIn word t := by
  induction t with
  | nil =>
    refine iff_of_false List.not_mem_nil ?_
    rintro ⟨before, after, empty, -⟩
    cases (List.append_eq_nil_iff.mp empty.symm).2
  | cons c r ih =>
    rw [labelWords_cons, taggedIn_cons, ← ih]
    split
    · rename_i tag
      rw [List.mem_cons, eq_comm, and_iff_right tag.1]
      exact or_congr_left (iff_self_and.mpr fun same => same ▸ tag.2)
    · rename_i tag
      exact (or_iff_right fun ⟨hc, same, some_word⟩ => tag ⟨hc, same ▸ some_word⟩).symm

/-- The words that a search for labels finds from left to right behind the next `skip` characters. After a word the
search goes on at its end. -/
def foundLabels (skip : Nat) : Text → List Text
  | [] => []
  | c :: r =>
    match skip with
    | s + 1 => foundLabels s r
    | 0 =>
      let word := r.takeWhile inLabel
      if c = '#' ∧ word ≠ [] then word :: foundLabels word.length r else foundLabels 0 r

theorem foundLabels_eq {skip : Nat} (inside : ∀ c ∈ t.take skip, c ≠ '#') : foundLabels skip t = labelWords t := by
  induction t generalizing skip with
  | nil => rfl
  | cons c r ih =>
    rw [labelWords_cons]
    cases skip with
    | succ s =>
      rw [List.take_succ_cons] at inside
      rw [foundLabels, if_neg fun tag => inside c List.mem_cons_self tag.1]
      exact ih fun d hd => inside d (List.mem_cons_of_mem c hd)
    | zero =>
      -- the word that is found holds no `#`, so none begins where the search skips
      have word : ∀ d ∈ r.take (r.takeWhile inLabel).length, d ≠ '#' := by
        intro d hd
        rw [← List.prefix_iff_eq_take.mp (List.takeWhile_prefix inLabel)] at hd
        exact (inLabel_iff.mp (List.mem_takeWhile_imp hd)).2
      rw [foundLabels, ih word, ih (show ∀ d ∈ r.take 0, d ≠ '#' from nofun)]

/-- A word behind a `#` that is a label: it does not begin with a keyword as a whole word. -/
structure LabelIn (word t : Text) : Prop where
  tagged : TaggedIn word t
  no_keyword : ¬∃ (k : Keyword) (front rest : Text), word = front ++ rest ∧ Text.lowerAscii front = k.word ∧
    ∀ c ∈ rest.head?, Text.isWord c = false

theorem labelIn_iff : LabelIn word t ↔ word ∈ (labelWords t).filter fun word => !Keyword.all.any (·.leads word) := by
  have keyword : Keyword.all.any (·.leads word) = true ↔ ∃ (k : Keyword) (front rest : Text), word = front ++ rest ∧
      Text.lowerAscii front = k.word ∧ ∀ c ∈ rest.head?, Text.isWord c = false := by
    simp only [← Keyword.leads_iff, List.any_eq_true]
    exact exists_congr fun k => and_iff_right (by cases k <;> decide)
  rw [List.mem_filter, mem_labelWords_iff, Bool.not_eq_true', Bool.eq_false_iff, ne_eq, keyword]
  exact ⟨fun label => ⟨label.tagged, label.no_keyword⟩, fun ⟨tagged, other⟩ => ⟨tagged, other⟩⟩

theorem getD_labels? (t : Text) :
    (labels? t).getD [] = Text.sortedSet ((labelWords t).filter fun word => !Keyword.all.any (·.leads word)) := by
  rw [labels?]
  generalize Text.sortedSet _ = labels
  cases labels <;> rfl

theorem mem_labels?_iff : word ∈ (labels? t).getD [] ↔ LabelIn word t := by
  rw [getD_labels?, Text.mem_sortedSet, labelIn_iff]

theorem labels?_eq_none_iff : labels? t = none ↔ ∀ word, ¬LabelIn word t := by
  simp only [← mem_labels?_iff, ← List.eq_nil_iff_forall_not_mem, labels?]
  generalize Text.sortedSet _ = labels
  cases labels with
  | nil => exact iff_of_true rfl rfl
  | cons word labels => exact iff_of_false (Option.some_ne_none _) (List.cons_ne_nil _ _)

/-! ### Where a comment ends -/

/-- What is left of a text without the closer that ends it, blanks aside. Without one it stays as it is. -/
inductive Opener.Leaves (o : Opener) (t : Text) : Text → Prop
  | closed {u c b : Text} (hc : c ∈ o.closer) (hb : allBlank b = true) (ends : t = u ++ c ++ b) : Leaves o t u
  | unclosed (runs_on : ∀ c ∈ o.closer, ∀ u b, allBlank b = true → t ≠ u ++ c ++ b) : Leaves o t t

/-- Whatever ends a text as a closer does stands behind what is left of the text. -/
theorem Opener.Leaves.exists_rest {o : Opener} {u : Text} (left : o.Leaves t u)
    (closer : ∀ c ∈ o.closer, c ≠ [] ∧ Tight c) :
    ∃ rest, t = u ++ rest ∧ ∀ c ∈ o.closer, ∀ b, allBlank b = true → c ++ b <:+ t → c ++ b <:+ rest := by
  cases left with
  | @closed u c b hc hb ends =>
    refine ⟨c ++ b, by rw [ends, List.append_assoc], fun c' hc' b' hb' ⟨v, split⟩ => ?_⟩
    obtain rfl := Option.mem_unique hc hc'
    obtain ⟨hne, tight⟩ := closer c hc
    -- without its blanks the text ends in the closer in one way only
    have same : v ++ c = u ++ c := by
      rw [← tight.trimEnd_append (t := v) hne, ← tight.trimEnd_append (t := u) hne, ← Text.trimEnd_append_right hb',
        ← Text.trimEnd_append_right (t := u ++ c) hb, ← ends, List.append_assoc, split]
    obtain rfl := List.append_cancel_right same
    rw [ends, List.append_assoc] at split
    exact List.append_cancel_left split ▸ List.suffix_rfl
  | unclosed runs_on =>
    refine ⟨[], (List.append_nil t).symm, fun c hc b hb ⟨v, split⟩ => ?_⟩
    exact absurd (by rw [List.append_assoc, split]) (runs_on c hc v b hb)

namespace Comment

variable {k : Comment} {s : Text}

/-- The comment is copies of its opener, the text and the closer that ends it; the text is not cut any further. -/
def Encloses (k : Comment) (s : Text) : Prop :=
  ∃ n inner, k.text = (List.replicate (n + 1) k.opener.mark).flatten ++ inner ∧ ¬k.opener.mark <+: inner ∧
    k.opener.Leaves inner s

theorem leaves_of_stripEnd? {o : Opener} {c : Text} (hc : o.closer = some c) (tight : Tight c) (hne : c ≠ []) (t : Text) :
    o.Leaves t ((Text.stripEnd? c (Text.trimEnd t)).getD t) := by
  cases hu : Text.stripEnd? c (Text.trimEnd t) with
  | some u =>
    obtain ⟨b, hb, split⟩ := Text.exists_blanks_after t
    rw [← Text.stripEnd?_eq_some_iff.mp hu] at split
    exact .closed hc hb split
  | none =>
    refine .unclosed fun c' hc' u b hb ends => ?_
    obtain rfl := Option.mem_unique hc hc'
    rw [ends, Text.trimEnd_append_right hb, tight.trimEnd_append hne, Text.stripEnd?_eq_some_iff.mpr rfl] at hu
    cases hu

theorem encloses_content (pre : k.opener.mark <+: k.text) (closer : ∀ c ∈ k.opener.closer, c ≠ [] ∧ Tight c) :
    k.Encloses k.content := by
  obtain ⟨inside, split⟩ := pre
  obtain ⟨n, copies, none_left⟩ := Text.exists_copies_trimStartOf k.opener.mark_ne_nil inside
  refine ⟨n, Text.trimStartOf k.opener.mark inside, ?_, none_left, ?_⟩
  · rw [← split, List.replicate_succ, List.flatten_cons, List.append_assoc, ← copies]
  · rw [content, ← split, List.drop_left]
    cases hc : k.opener.closer with
    | none => exact .unclosed fun c hc' => absurd (hc ▸ hc') (Option.not_mem_none c)
    | some c =>
      obtain ⟨hne, tight⟩ := closer c hc
      exact leaves_of_stripEnd? hc tight hne _

theorem exists_leaves_bodyOf (closer : ∀ c ∈ k.opener.closer, c ≠ [] ∧ Tight c) (tail : Text) :
    ∃ u, k.opener.Leaves tail u ∧ k.bodyOf tail = Text.trim u := by
  by_cases ends : ∃ c ∈ k.opener.closer, ∃ u b, allBlank b = true ∧ tail = u ++ c ++ b
  · obtain ⟨c, hc, u, b, hb, rfl⟩ := ends
    have body := bodyOf_closed (t := u) closer hb
    rw [Option.mem_def.mp hc] at body
    exact ⟨u, .closed hc hb rfl, body⟩
  · push Not at ends
    refine ⟨tail, .unclosed fun c hc u b hb => ends c hc u b hb, ?_⟩
    rw [bodyOf]
    cases hc : k.opener.closer with
    | none => rfl
    | some c =>
      -- a closer at the end of the trimmed text would end the text before it is trimmed
      have kept : Text.stripEnd? c (Text.trim tail) = none := by
        rw [Option.eq_none_iff_forall_ne_some]
        intro u hu
        obtain ⟨lead, trail, -, blank, split⟩ := Text.exists_blanks_around tail
        refine ends c hc (lead ++ u) trail blank ?_
        rw [split, ← Text.stripEnd?_eq_some_iff.mp hu]
        simp only [List.append_assoc]
      simp only [kept, Option.getD_none]
      exact (Text.tight_trim tail).trimEnd_eq

end Comment

/-! ### Where labels come from -/

/-- The part of a line that its labels come from, with what stands before it and behind it. -/
structure LabelSource (k : Comment) (structured : Option Structured) (before part after : Text) : Prop where
  whole : k.code ++ k.text = before ++ part ++ after
  body : ∀ s ∈ structured, part = s.body
  content : structured = none → k.Encloses part
  code : k.code ++ k.opener.mark <+: before
  /-- The title stands before the first bar of the comment, and the part behind it. -/
  title : ∀ s ∈ structured, ∃ head, '|' ∉ head ∧ s.title <:+: head ∧ k.code ++ head ++ ['|'] <+: before
  /-- A closer that ends the line, blanks aside, stands behind the part. -/
  closer : ∀ c ∈ k.opener.closer, ∀ b, allBlank b = true → c ++ b <:+ k.code ++ k.text → c ++ b <:+ after

/-- The letters that keywords begin with. -/
def Keyword.initials : List Char := all.filterMap (·.word.head?)

theorem Keyword.StandsIn.exists_initial {k : Keyword} (stands : k.StandsIn t) : ∃ c ∈ t, c.toLower ∈ initials := by
  obtain ⟨before, word, after, rfl, spelled, -⟩ := stands
  cases word with
  | nil => cases k <;> cases spelled
  | cons c word =>
    have initial : k.word.head? = some c.toLower := by rw [← spelled, Text.lowerAscii, List.map_cons, List.head?_cons]
    refine ⟨c, by simp, List.mem_filterMap.mpr ⟨k, by cases k <;> decide, initial⟩⟩

theorem Keyword.isWord_of_initial (initial : c.toLower ∈ initials) : Text.isWord c = true := by
  obtain ⟨j, -, first⟩ := List.mem_filterMap.mp initial
  exact isWord_of_toLower_mem (List.mem_of_mem_head? first)

/-- The delimiters hold no bar and no letter that a keyword may begin with. -/
def Opener.Spares (o : Opener) : Prop :=
  ∀ c ∈ o.mark ++ o.closer.getD [], c ≠ '|' ∧ c.toLower ∉ Keyword.initials

instance (o : Opener) : Decidable o.Spares := List.decidableBAll _ _

theorem Language.openers_spare {l : Language} (hl : l ∈ generic :: table) : ∀ o ∈ l.openers, o.Spares := by
  revert l
  decide +kernel

theorem Text.suffix_of_notMem {ending front inner : Text} (hc : c ∈ inner) (out : c ∉ ending)
    (ends : ending <:+ front ++ inner) : ending <:+ inner :=
  (List.suffix_or_suffix_of_suffix ends (List.suffix_append front inner)).resolve_right fun within =>
    out (within.subset hc)

namespace Comment

variable {k : Comment} {s : Structured}

theorem exists_source_content (closer : ∀ c ∈ k.opener.closer, c ≠ [] ∧ Tight c) (spares : k.opener.Spares)
    (pre : k.opener.mark <+: k.text) (mentioned : ∃ j : Keyword, j.StandsIn k.text) :
    ∃ before after, LabelSource k none before k.content after := by
  have encloses := k.encloses_content pre closer
  obtain ⟨n, inner, text, -, left⟩ := id encloses
  obtain ⟨rest, split, ends⟩ := left.exists_rest closer
  refine ⟨k.code ++ (List.replicate (n + 1) k.opener.mark).flatten, rest, ?_, nofun, fun _ => encloses, ?_, nofun, ?_⟩
  · simp only [text, split, List.append_assoc]
  · rw [List.replicate_succ, List.flatten_cons, ← List.append_assoc]
    exact List.prefix_append _ _
  · intro c hc b hb suffix
    refine ends c hc b hb ?_
    -- the keyword stands behind the openers, and a closer that held all of that would hold its first letter
    obtain ⟨j, stands⟩ := mentioned
    obtain ⟨i, hi, initial⟩ := stands.exists_initial
    have inside : i ∈ inner := by
      rw [text, List.mem_append] at hi
      refine hi.resolve_left fun copy => ?_
      obtain ⟨mark, hmark, himark⟩ := List.mem_flatten.mp copy
      rw [List.eq_of_mem_replicate hmark] at himark
      exact (spares i (List.mem_append_left _ himark)).2 initial
    have out : i ∉ c ++ b := by
      rw [List.mem_append, not_or]
      refine ⟨fun closes => ?_, fun blank => ?_⟩
      · exact (spares i (List.mem_append_right _ (hc ▸ closes))).2 initial
      · have apart := Text.isWord_of_isBlank (Text.isBlank_of_mem hb blank)
        exact Bool.false_ne_true (apart.symm.trans (Keyword.isWord_of_initial initial))
    rw [text, ← List.append_assoc] at suffix
    exact Text.suffix_of_notMem inside out suffix

theorem exists_source_body (closer : ∀ c ∈ k.opener.closer, c ≠ [] ∧ Tight c) (spares : k.opener.Spares)
    (pre : k.opener.mark <+: k.text) (hs : k.structured? = some s) :
    ∃ before after, LabelSource k (some s) before s.body after := by
  obtain ⟨head, tail, text, no_bar, -, title, body⟩ := cut_of_structured? hs
  obtain ⟨u, left, trimmed⟩ := k.exists_leaves_bodyOf closer tail
  obtain ⟨lead, trail, -, -, blanks⟩ := Text.exists_blanks_around u
  obtain ⟨rest, split, ends⟩ := left.exists_rest closer
  refine ⟨k.code ++ head ++ ['|'] ++ lead, trail ++ rest, ?_, ?_, nofun, ?_, ?_, ?_⟩
  · rw [text, split, body, trimmed]
    nth_rewrite 1 [blanks]
    simp
  · rintro _ ⟨⟩
    rfl
  · -- the mark holds no bar, so it ends before the first one
    have front : k.opener.mark <+: head ++ ['|'] := by
      rw [text] at pre
      refine (List.prefix_or_prefix_of_prefix pre ?_).resolve_right fun within => ?_
      · exact ⟨tail, by simp⟩
      · have bar : '|' ∈ k.opener.mark := within.subset (by simp)
        exact (spares '|' (List.mem_append_left _ bar)).1 rfl
    rw [List.append_assoc k.code]
    exact ((List.prefix_append_right_inj k.code).mpr front).trans (List.prefix_append _ lead)
  · rintro _ ⟨⟩
    refine ⟨head, no_bar, ?_, List.prefix_append _ lead⟩
    obtain ⟨before, after, -, -, around⟩ := Text.exists_blanks_around (Text.trimStartOf k.opener.mark head)
    rw [title]
    refine List.IsInfix.trans ⟨before, after, ?_⟩ (Text.dropCopies_suffix k.opener.mark head.length head).isInfix
    rw [List.append_assoc, ← around, Text.trimStartOf]
  · intro c hc b hb suffix
    refine (ends c hc b hb ?_).trans (List.suffix_append trail rest)
    -- a closer holds no bar, so it ends the text behind the first one
    have out : '|' ∉ c ++ b := by
      rw [List.mem_append, not_or]
      exact ⟨fun closes => (spares '|' (List.mem_append_right _ (hc ▸ closes))).1 rfl, bar_notMem_blanks hb⟩
    rw [text, ← List.append_assoc] at suffix
    refine (List.suffix_cons_iff.mp (Text.suffix_of_notMem List.mem_cons_self out suffix)).resolve_left fun same => ?_
    exact out (same ▸ List.mem_cons_self)

theorem labels_of_directive? {d : Directive} (hd : k.directive? = some d) : d.labels = labels? (match k.structured? with
    | some s => s.body
    | none => k.content) := by
  rw [directive?] at hd
  split at hd
  · cases hd
  · cases hd
    rfl

theorem exists_source (closer : ∀ c ∈ k.opener.closer, c ≠ [] ∧ Tight c) (spares : k.opener.Spares)
    (pre : k.opener.mark <+: k.text) {d : Directive} (hd : k.directive? = some d) :
    ∃ before part after, LabelSource k d.structured before part after ∧ d.labels = labels? part := by
  rw [labels_of_directive? hd, (of_directive? hd).2]
  cases hs : k.structured? with
  | some s =>
    obtain ⟨before, after, source⟩ := exists_source_body closer spares pre hs
    exact ⟨before, _, after, source, rfl⟩
  | none =>
    have mentioned := isSome_directive?_iff.mp (Option.isSome_of_mem hd)
    obtain ⟨before, after, source⟩ := exists_source_content closer spares pre mentioned
    exact ⟨before, _, after, source, rfl⟩

end Comment

namespace Language

/-- The labels of a directive are the words behind a `#` that are no keywords, in ascending order, in one part of its
line: the body, or without one what the comment encloses. That part lies behind the code, the opener and the title, and
before the closer that ends the line. A search that goes on after each word it finds comes to the same labels. -/
theorem labels_of_tagged {l : Language} (hl : l ∈ generic :: table) {line : Text} {d : Directive}
    (hd : l.parse? line = some d) : ∃ k before part after,
      k.code ++ k.text = line ∧ l.CommentAt line k.code.length ∧ k.opener ∈ l.openers ∧
      LabelSource k d.structured before part after ∧
      (∀ word, word ∈ d.labels.getD [] ↔ LabelIn word part) ∧
      (d.labels = none ↔ ∀ word, ¬LabelIn word part) ∧
      d.labels.getD [] = Text.sortedSet ((foundLabels 0 part).filter fun word => !Keyword.all.any (·.leads word)) ∧
      (d.labels.getD []).Pairwise (· < ·) := by
  obtain ⟨k, hk, hd⟩ := Option.bind_eq_some_iff.mp hd
  obtain ⟨whole, ho, pre⟩ := Comment.of_split? hk
  have closer := (delimited hl).closer k.opener ho
  obtain ⟨before, part, after, source, labels⟩ := Comment.exists_source closer (openers_spare hl _ ho) pre hd
  refine ⟨k, before, part, after, whole, (commentAt_of_split? hk).1, ho, source, ?_⟩
  rw [labels, foundLabels_eq (by simp), ← getD_labels?]
  refine ⟨fun word => mem_labels?_iff, labels?_eq_none_iff, rfl, ?_⟩
  rw [getD_labels?]
  exact Text.pairwise_sortedSet _

/-- A closed comment of C with a `#` in the code, in the title and before a keyword. -/
theorem labels_of_tagged_body :
    let c := ofExtension "c".toList
    let line := "#define N 4  /* todo #size | #todo: #perf#bug */".toList
    let body := "#todo: #perf#bug".toList
    let labels := ["bug".toList, "perf".toList]
    c ∈ generic :: table ∧
      (∃ d, c.parse? line = some d ∧ d.structured = some ⟨"todo #size".toList, body⟩ ∧ d.labels = some labels) ∧
      ∀ word, word ∈ labels ↔ LabelIn word body := by
  intro c line body labels
  have hl : c ∈ generic :: table := ofExtension_mem _
  have read : (c.parse? line).map (fun d => (d.structured, d.labels)) =
      some (some ⟨"todo #size".toList, body⟩, some labels) := by decide +kernel
  obtain ⟨d, hd, parts⟩ := Option.map_eq_some_iff.mp read
  obtain ⟨structured, found⟩ := Prod.mk.inj parts
  refine ⟨hl, ⟨d, hd, structured, found⟩, ?_⟩
  obtain ⟨k, before, part, after, -, -, -, source, tagged, -⟩ := labels_of_tagged hl hd
  rw [source.body _ structured, found] at tagged
  exact tagged

end Language

end TodoLedger
